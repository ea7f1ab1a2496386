import Scaffold.Proofs.Naming.Packages
import Scaffold.Proofs.Project.Order

/-!
# The packages of generated sources

Every class that is generated belongs to a package, which its source declares in the first line: the
class that starts the application to the base package, and the classes of a layer to the package of
that layer below it. The packages of the layers have names that the generated language accepts, so
whether a source declares a package that can be there is up to the base package, and the same for
all sources of a project.

A base package is accepted if it is a sequence of words with dots between them. Reserved words count
as words there, and then no source of the project declares a package that can be there.

## Main definitions

* `DeclaresPackage`: a source declares its package in the first line.

## Main results

* `declaresPackage_of_mem_classSteps`: the packages of the layers of a class.
* `isPackage_and_declarations_iff`: which base packages are accepted, and for which of them the
  sources declare packages that can be there.
-/

namespace Scaffold

open Naming (IsDotted IsPackageName IsSegmentWord dotPieces isPackage)

/-- A source declares in its first line which package it belongs to. -/
def DeclaresPackage (text name : String) : Prop :=
  ∃ lines, text = textOfLines (("package " ++ name ++ ";") :: lines)

/-! ### Layers -/

/-- A source whose first line ends in the name of a layer, which is part of a fixed text there. -/
theorem declaresPackage_layer (layer back : String) (h : back = "." ++ layer ++ ";")
    (name : String) (lines : List String) :
    DeclaresPackage (textOfLines (("package " ++ name ++ back) :: lines))
      (name ++ "." ++ layer) := by
  refine ⟨lines, ?_⟩
  rw [h]
  simp only [String.append_assoc]

/-- The sources of a class declare packages below the base package, each under the name of the
directory of its layer. -/
theorem declaresPackage_of_mem_classSteps {x : Index} {basePackage : String} {c : ClassBox}
    {s : Step} (hs : s ∈ x.classSteps basePackage c) :
    ∃ directory suffix, (s.context.template, directory, suffix) ∈ layerPlaces ∧
      DeclaresPackage s.context.source (basePackage ++ "." ++ directory) := by
  simp only [Index.classSteps, List.mem_cons, List.not_mem_nil, or_false] at hs
  rcases hs with rfl | rfl | rfl | rfl <;> dsimp only [Context.template]
  · exact ⟨"model", ".java", by decide, declaresPackage_layer "model" ".model;" (by decide) _ _⟩
  · exact ⟨"repository", "Repository.java", by decide,
      declaresPackage_layer "repository" ".repository;" (by decide) _ _⟩
  · exact ⟨"service", "Service.java", by decide,
      declaresPackage_layer "service" ".service;" (by decide) _ _⟩
  · exact ⟨"controller", "Controller.java", by decide,
      declaresPackage_layer "controller" ".controller;" (by decide) _ _⟩

theorem isPackageName_of_mem_layerPlaces {template : Template} {directory suffix : String}
    (h : (template, directory, suffix) ∈ layerPlaces) : IsPackageName directory := by
  have htable : ∀ row ∈ layerPlaces, isPackage row.2.1 = true ∧
      ∀ piece ∈ dotPieces row.2.1, piece ∉ Naming.reservedWords := by
    decide
  exact Naming.isPackageName_iff.mpr (htable _ h)

/-! ### Projects -/

/-- All files of a project but two are sources, and they declare packages that can be there exactly
if the base package can. -/
theorem exists_declaresPackage_of_mem_generationSteps {d : Diagram} {p : Parameters} {s : Step}
    (hs : s ∈ generationSteps d p) (hdescriptor : s.path ≠ ⟨"pom.xml"⟩)
    (hconfiguration : s.path ≠ ⟨"src/main/resources/application.properties"⟩) :
    ∃ name, DeclaresPackage s.context.source name ∧
      (IsPackageName name ↔ IsPackageName p.basePackage) := by
  rw [generationSteps, List.mem_append, List.mem_flatMap] at hs
  rcases hs with hs | ⟨c, -, hs⟩
  · simp only [projectSteps, List.mem_cons, List.not_mem_nil, or_false] at hs
    rcases hs with rfl | rfl | rfl
    · exact absurd rfl hdescriptor
    · exact ⟨p.basePackage, ⟨_, rfl⟩, Iff.rfl⟩
    · exact absurd rfl hconfiguration
  · obtain ⟨directory, suffix, hplace, hdeclares⟩ := declaresPackage_of_mem_classSteps hs
    refine ⟨_, hdeclares, ?_⟩
    rw [Naming.isPackageName_append_iff]
    exact and_iff_left (isPackageName_of_mem_layerPlaces hplace)

/-- **Which base packages are accepted.** They are the sequences of words with dots between them,
where a word is made of letters, digits and underscores of ASCII and does not start with a digit.
The generated language can have such a package exactly if none of the words is reserved, and that is
what it takes for the package that a source of a project declares in its first line. -/
theorem isPackage_and_declarations_iff (name : String) :
    (isPackage name = true ↔ IsDotted IsSegmentWord name) ∧
    (IsPackageName name ↔
      isPackage name = true ∧ ∀ word ∈ dotPieces name, word ∉ Naming.reservedWords) ∧
    ∀ d p project, p.basePackage = name → generate d p builtinRenderer = .ok project →
      ∀ f ∈ project.files, f.path ≠ ⟨"pom.xml"⟩ →
        f.path ≠ ⟨"src/main/resources/application.properties"⟩ →
        ∃ declared, DeclaresPackage f.content declared ∧
          (IsPackageName declared ↔ IsPackageName name) := by
  refine ⟨Naming.isPackage_iff, Naming.isPackageName_iff, ?_⟩
  rintro d p project rfl hgenerate f hf hdescriptor hconfiguration
  rw [(generate_eq_ok_iff.mp hgenerate).2.eq_of_builtinRenderer] at hf
  obtain ⟨s, hs, rfl⟩ := List.mem_map.mp hf
  exact exists_declaresPackage_of_mem_generationSteps hs hdescriptor hconfiguration

/-- A diagram with one class. -/
def libraryDiagram : Diagram where
  classes := [.named "b" "book"]
  relationships := []

/-- The file of the class that starts the application, and the package that it declares. -/
theorem exists_bootstrap_of_generate {p : Parameters}
    (hroot : (Layout.ofPackage p.basePackage).javaRoot.isInner = true) :
    ∃ project, generate libraryDiagram p builtinRenderer = .ok project ∧ ∃ f ∈ project.files,
      f.path = (Layout.ofPackage p.basePackage).bootstrap p.mainClass ∧
        DeclaresPackage f.content p.basePackage := by
  have hok := generate_builtinRenderer (d := libraryDiagram) hroot (by decide)
  generalize hpath : (Layout.ofPackage p.basePackage).bootstrap p.mainClass = path
  have hstep : ⟨path, .bootstrap ⟨p.basePackage, p.mainClass⟩⟩ ∈
      generationSteps libraryDiagram p :=
    List.mem_append_left _ (by simp [projectSteps, hpath])
  exact ⟨_, hok, _, List.mem_map_of_mem hstep, rfl, ⟨_, rfl⟩⟩

theorem isPackage_and_declarations_iff_library :
    isPackage "org.acme_corp.app2" = true ∧ IsPackageName "org.acme_corp.app2" ∧
      ∃ project f declared,
        generate libraryDiagram (.standard "org.acme_corp.app2" "shop") builtinRenderer =
          .ok project ∧
        f ∈ project.files ∧ DeclaresPackage f.content declared ∧ IsPackageName declared := by
  obtain ⟨haccepted, hlegal, hdeclarations⟩ := isPackage_and_declarations_iff "org.acme_corp.app2"
  have hpackage : IsPackageName "org.acme_corp.app2" := hlegal.mpr (by decide)
  obtain ⟨project, hok, f, hf, hpath, -⟩ :=
    exists_bootstrap_of_generate (p := .standard "org.acme_corp.app2" "shop") (by decide)
  obtain ⟨declared, hdeclared, hiff⟩ := hdeclarations _ _ _ rfl hok f hf
    (by rw [hpath]; decide) (by rw [hpath]; decide)
  exact ⟨by decide, hpackage, project, f, declared, hok, hf, hdeclared, hiff.mpr hpackage⟩

/-- A reserved word is accepted as a word of the base package, and the sources of the project
declare a package that cannot be there. -/
theorem exists_isPackage_reserved :
    ∃ name, isPackage name = true ∧ ¬ IsPackageName name ∧
      ∃ project, generate libraryDiagram (.standard name "shop") builtinRenderer = .ok project ∧
        ∃ f ∈ project.files, DeclaresPackage f.content name := by
  have hreserved : ¬ IsPackageName "com.class" := by
    rw [Naming.isPackageName_iff]
    decide
  obtain ⟨project, hok, f, hf, -, hdeclared⟩ :=
    exists_bootstrap_of_generate (p := .standard "com.class" "shop") (by decide)
  exact ⟨"com.class", by decide, hreserved, project, hok, f, hf, hdeclared⟩

end Scaffold
