import Scaffold.Entity.JavaType
import Scaffold.Template.Context
import Scaffold.Text.Basic

/-!
# The sources around an entity

Every entity comes with a repository, a service and a controller. All three are typed by the key of
the entity; where no key is known they use the type and the setter of the key that the entity then
declares.
-/

namespace Scaffold

/-- The type of a key, where it is known, or that of a declared one. -/
def keyTypeOrDefault (keyType : Option String) : String :=
  keyType.getD numericKeyType

/-- The setter of a key, where it is known, or that of a declared one. -/
def keySetterOrDefault (keySetter : Option String) : String :=
  keySetter.getD "setId"

/-- The source of a repository. -/
def Context.Repository.source (c : Context.Repository) : String :=
  textOfLines
    ["package " ++ c.basePackage ++ ".repository;",
     "",
     "import " ++ c.basePackage ++ ".model." ++ c.entityName ++ ";",
     "import org.springframework.data.jpa.repository.JpaRepository;",
     "import org.springframework.stereotype.Repository;",
     "",
     "@Repository",
     "public interface " ++ c.entityName ++ "Repository extends JpaRepository<" ++ c.entityName ++
       ", " ++ keyTypeOrDefault c.keyType ++ "> \x7b",
     "\x7d"]

/-- The source of a service. -/
def Context.Service.source (c : Context.Service) : String :=
  let entity := c.entityName
  let key := keyTypeOrDefault c.keyType
  textOfLines
    ["package " ++ c.basePackage ++ ".service;",
     "",
     "import " ++ c.basePackage ++ ".model." ++ entity ++ ";",
     "import " ++ c.basePackage ++ ".repository." ++ entity ++ "Repository;",
     "import org.springframework.stereotype.Service;",
     "",
     "import java.util.List;",
     "import java.util.Optional;",
     "",
     "@Service",
     "public class " ++ entity ++ "Service \x7b",
     "",
     "    private final " ++ entity ++ "Repository repository;",
     "",
     "    public " ++ entity ++ "Service(" ++ entity ++ "Repository repository) \x7b",
     "        this.repository = repository;",
     "    \x7d",
     "",
     "    public List<" ++ entity ++ "> findAll() \x7b",
     "        return repository.findAll();",
     "    \x7d",
     "",
     "    public Optional<" ++ entity ++ "> findById(" ++ key ++ " id) \x7b",
     "        return repository.findById(id);",
     "    \x7d",
     "",
     "    public " ++ entity ++ " save(" ++ entity ++ " entity) \x7b",
     "        return repository.save(entity);",
     "    \x7d",
     "",
     "    public Optional<" ++ entity ++ "> update(" ++ key ++ " id, " ++ entity ++ " entity) \x7b",
     "        if (!repository.existsById(id)) \x7b",
     "            return Optional.empty();",
     "        \x7d",
     "        entity." ++ keySetterOrDefault c.keySetter ++ "(id);",
     "        return Optional.of(repository.save(entity));",
     "    \x7d",
     "",
     "    public boolean deleteById(" ++ key ++ " id) \x7b",
     "        if (!repository.existsById(id)) \x7b",
     "            return false;",
     "        \x7d",
     "        repository.deleteById(id);",
     "        return true;",
     "    \x7d",
     "\x7d"]

/-- The source of a controller. -/
def Context.Controller.source (c : Context.Controller) : String :=
  let entity := c.entityName
  let key := keyTypeOrDefault c.keyType
  textOfLines
    ["package " ++ c.basePackage ++ ".controller;",
     "",
     "import " ++ c.basePackage ++ ".model." ++ entity ++ ";",
     "import " ++ c.basePackage ++ ".service." ++ entity ++ "Service;",
     "import org.springframework.http.HttpStatus;",
     "import org.springframework.http.ResponseEntity;",
     "import org.springframework.web.bind.annotation.*;",
     "",
     "import java.util.List;",
     "",
     "@RestController",
     "@RequestMapping(\"/api/" ++ c.resourceName ++ "\")",
     "public class " ++ entity ++ "Controller \x7b",
     "",
     "    private final " ++ entity ++ "Service service;",
     "",
     "    public " ++ entity ++ "Controller(" ++ entity ++ "Service service) \x7b",
     "        this.service = service;",
     "    \x7d",
     "",
     "    @GetMapping",
     "    public List<" ++ entity ++ "> findAll() \x7b",
     "        return service.findAll();",
     "    \x7d",
     "",
     "    @GetMapping(\"/\x7bid\x7d\")",
     "    public ResponseEntity<" ++ entity ++ "> findById(@PathVariable " ++ key ++ " id) \x7b",
     "        return service.findById(id)",
     "                .map(ResponseEntity::ok)",
     "                .orElse(ResponseEntity.notFound().build());",
     "    \x7d",
     "",
     "    @PostMapping",
     "    public ResponseEntity<" ++ entity ++ "> create(@RequestBody " ++ entity ++
       " entity) \x7b",
     "        return ResponseEntity.status(HttpStatus.CREATED).body(service.save(entity));",
     "    \x7d",
     "",
     "    @PutMapping(\"/\x7bid\x7d\")",
     "    public ResponseEntity<" ++ entity ++ "> update(@PathVariable " ++ key ++
       " id, @RequestBody " ++ entity ++ " entity) \x7b",
     "        return service.update(id, entity)",
     "                .map(ResponseEntity::ok)",
     "                .orElse(ResponseEntity.notFound().build());",
     "    \x7d",
     "",
     "    @DeleteMapping(\"/\x7bid\x7d\")",
     "    public ResponseEntity<Void> delete(@PathVariable " ++ key ++ " id) \x7b",
     "        return service.deleteById(id)",
     "                ? ResponseEntity.noContent().build()",
     "                : ResponseEntity.notFound().build();",
     "    \x7d",
     "\x7d"]

end Scaffold
