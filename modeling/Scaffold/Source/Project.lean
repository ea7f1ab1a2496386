import Scaffold.Source.Entity
import Scaffold.Source.Layers

/-!
# The sources of the project as a whole

The build descriptor, the class that starts the application, and the settings that the application
reads when it starts; and with them the sources of all contexts.

A renderer turns a context into the text of a file, or fails. It may remember what it was asked
before, so its answer is a function of the contexts rendered so far, latest first, and of the
context at hand.

## Main definitions

* `Context.source`: the text of a context in the built-in sources.
* `Renderer`, `builtinRenderer`: what turns contexts into texts.
-/

namespace Scaffold

/-- The lines of a dependency of the build. -/
def dependencyLines (group artifact : String) (scope : Option String) : List String :=
  ["        <dependency>",
   "            <groupId>" ++ group ++ "</groupId>",
   "            <artifactId>" ++ artifact ++ "</artifactId>"] ++
  (scope.map fun s => "            <scope>" ++ s ++ "</scope>").toList ++
  ["        </dependency>"]

/-- The group of the framework's own artifacts. -/
def frameworkGroup : String := "org.springframework.boot"

/-- The source of the build descriptor. -/
def Context.Build.source (c : Context.Build) : String :=
  textOfLines <|
    ["<?xml version=\"1.0\" encoding=\"UTF-8\"?>",
     "<project xmlns=\"http://maven.apache.org/POM/4.0.0\" " ++
       "xmlns:xsi=\"http://www.w3.org/2001/XMLSchema-instance\"",
     "         xsi:schemaLocation=\"http://maven.apache.org/POM/4.0.0 " ++
       "https://maven.apache.org/xsd/maven-4.0.0.xsd\">",
     "    <modelVersion>4.0.0</modelVersion>",
     "",
     "    <parent>",
     "        <groupId>org.springframework.boot</groupId>",
     "        <artifactId>spring-boot-starter-parent</artifactId>",
     "        <version>" ++ c.springBootVersion ++ "</version>",
     "        <relativePath/>",
     "    </parent>",
     "",
     "    <groupId>" ++ c.groupId ++ "</groupId>",
     "    <artifactId>" ++ c.artifactId ++ "</artifactId>",
     "    <version>0.0.1-SNAPSHOT</version>",
     "    <name>" ++ c.artifactId ++ "</name>",
     "",
     "    <properties>",
     "        <java.version>" ++ c.javaVersion ++ "</java.version>",
     "    </properties>",
     "",
     "    <dependencies>"] ++
    dependencyLines frameworkGroup "spring-boot-starter-web" none ++
    dependencyLines frameworkGroup "spring-boot-starter-data-jpa" none ++
    dependencyLines frameworkGroup "spring-boot-starter-test" (some "test") ++
    dependencyLines "org.postgresql" "postgresql" (some "runtime") ++
    ["    </dependencies>",
     "",
     "    <build>",
     "        <plugins>",
     "            <plugin>",
     "                <groupId>org.springframework.boot</groupId>",
     "                <artifactId>spring-boot-maven-plugin</artifactId>",
     "            </plugin>",
     "        </plugins>",
     "    </build>",
     "</project>"]

/-- The source of the class that starts the application. -/
def Context.Bootstrap.source (c : Context.Bootstrap) : String :=
  textOfLines
    ["package " ++ c.basePackage ++ ";",
     "",
     "import org.springframework.boot.SpringApplication;",
     "import org.springframework.boot.autoconfigure.SpringBootApplication;",
     "",
     "@SpringBootApplication",
     "public class " ++ c.mainClass ++ " \x7b",
     "",
     "    public static void main(String[] args) \x7b",
     "        SpringApplication.run(" ++ c.mainClass ++ ".class, args);",
     "    \x7d",
     "\x7d"]

/-- How a truth value is written in the settings. -/
def boolText (b : Bool) : String :=
  if b then "true" else "false"

/-- The settings of the application. -/
def Context.Configuration.source (c : Context.Configuration) : String :=
  textOfLines
    ["server.port=" ++ Nat.repr c.serverPort,
     "",
     "spring.datasource.url=" ++ c.dbUrl,
     "spring.datasource.username=" ++ c.dbUsername,
     "spring.datasource.password=" ++ c.dbPassword,
     "spring.datasource.driver-class-name=" ++ c.dbDriver,
     "",
     "spring.jpa.hibernate.ddl-auto=" ++ c.ddlAuto,
     "spring.jpa.show-sql=" ++ boolText c.showSql,
     "spring.jpa.properties.hibernate.dialect=" ++ c.dbDialect]

/-! ### Renderers -/

/-- The answer of a renderer to a context, after the contexts given first; an error carries its
explanation. -/
abbrev Renderer := List Context → Context → Except String String

/-- The text of a context in the built-in sources. -/
def Context.source : Context → String
  | .entity c => c.source
  | .repository c => c.source
  | .service c => c.source
  | .controller c => c.source
  | .buildDescriptor c => c.source
  | .bootstrap c => c.source
  | .configuration c => c.source

/-- The built-in renderer, which never fails. -/
def builtinRenderer : Renderer :=
  fun _ c => .ok c.source

end Scaffold
