import ApiCompiler.Proofs.Endpoint.Parameters
import ApiCompiler.Proofs.Go.Footprint
import ApiCompiler.Proofs.Project.Safety

/-!
# Names of declarations in Go

An exported identifier is put together from the words of a name, so it holds no underscore, and
from plain words it begins with a capital. A package is called by the letters and digits of the name
of its module, with other letters in front where these are none, begin with a digit, or are a
reserved word. A field of an error with the name of a method gets an underscore: no other field has
one, so fields that were distinct before stay distinct.
-/

namespace ApiCompiler

open Fallible

namespace Text

variable {c d : Char}

/-! ## Upper-case forms -/

theorem eq_toNat_of_ofNat_eq {n : Nat} (same : Char.ofNat n = c) (proper : c ≠ '\x00') :
    n = c.toNat := by
  by_cases valid : n.isValidChar
  · rw [← same, Char.ofNat, dif_pos valid]
    rfl
  · rw [Char.ofNat, dif_neg valid] at same
    exact absurd same.symm proper

/-- A character to whose place no shift moves another one is the form of no other character. -/
theorem Shift.eq_of_move_eq {shifts : List Shift} (moved : move shifts d = c) (proper : c ≠ '\x00')
    (free : ∀ s ∈ shifts, s.span.contains (c.toNat - s.offset).toNat = false) : d = c := by
  rw [move] at moved
  cases found : shifts.find? (·.span.contains d.toNat) with
  | none =>
      rw [found] at moved
      exact moved
  | some s =>
      rw [found] at moved
      have target := eq_toNat_of_ofNat_eq moved proper
      have positive : c.toNat ≠ 0 := fun zero => proper (by rw [← Char.ofNat_toNat c, zero])
      have source : (c.toNat - s.offset).toNat = d.toNat := by omega
      have inside := List.find?_some found
      rw [← source, free s (List.mem_of_find?_eq_some found)] at inside
      exact absurd inside Bool.false_ne_true

/-- The underscore is the upper-case form of no other character. -/
theorem eq_underscore_of_toUpper (same : toUpper c = '_') : c = '_' := by
  by_cases ascii : c.toNat < 0x80
  · have each : ∀ n < 0x80, toUpper (Char.ofNat n) = '_' → Char.ofNat n = '_' := by decide
    exact of_ascii (P := fun c => toUpper c = '_' → c = '_') each ascii same
  · rw [toUpper, if_neg ascii] at same
    exact Shift.eq_of_move_eq same (by decide) (by decide +kernel)

end Text

namespace Go

open Text

variable {name : String}

/-! ## Exported identifiers -/

/-- A name of letters, digits and separators of ASCII. -/
def IsDefinitionName (name : String) : Prop :=
  ∀ c ∈ name.toList, Casing.isSeparator c = true ∨ c.isAlphanum = true

instance (name : String) : Decidable (IsDefinitionName name) := List.decidableBAll _ _

/-- A capital of ASCII and, behind it, letters and digits of ASCII. -/
def IsExportedName (id : String) : Prop :=
  ∃ first rest, id.toList = first :: rest ∧ first.isUpper = true ∧ ∀ c ∈ rest, c.isAlphanum = true

theorem toList_exported (name : String) :
    (exported name).toList = exportedOf (Casing.nameWords name.toList) :=
  String.toList_ofList

/-- The words of a name are without separators, so an exported identifier holds no underscore. -/
theorem underscore_not_mem_exported (name : String) : '_' ∉ (exported name).toList := by
  rw [toList_exported]
  intro mem
  refine of_mem_exportedOf (P := fun c => c ≠ '_') (by decide) (fun word inside c mem => ?_) mem rfl
  have apart : c ≠ '_' := by
    rintro rfl
    exact nomatch (Casing.mem_of_mem_nameWords inside mem).2
  exact ⟨apart, fun same => apart (eq_underscore_of_toUpper same)⟩

theorem exportedOf_ne_nil (words : List (List Char)) : exportedOf words ≠ [] := by
  unfold exportedOf
  dsimp only
  split
  · rename_i joined
    split
    · rw [joined]
      exact List.cons_ne_nil _ _
    · exact List.cons_ne_nil _ _
  · exact List.cons_ne_nil _ _

theorem isExportedName_exported (plain : IsDefinitionName name) :
    IsExportedName (exported name) := by
  have words : ∀ word ∈ Casing.nameWords name.toList, ∀ c ∈ word, c.isAlphanum = true := by
    intro word mem c inside
    obtain ⟨here, free⟩ := Casing.mem_of_mem_nameWords mem inside
    exact (plain c here).resolve_left (by simp [free])
  obtain ⟨first, rest, spelled⟩ := List.exists_cons_of_ne_nil (exportedOf_ne_nil _)
  refine ⟨first, rest, (toList_exported name).trans spelled, ?_, fun c mem => ?_⟩
  · exact isUpper_of_head?_exportedOf words (by rw [spelled]; rfl)
  · exact alphanum_of_mem_exportedOf words (spelled ▸ List.mem_cons_of_mem _ mem)

/-! ## Packages -/

/-- Letters and decimal digits, of which the first is a letter, and no reserved word. -/
structure IsPackageName (id : String) : Prop where
  nonempty : id ≠ ""
  inside : ∀ c ∈ id.toList, isLetter c = true ∨ isDigit c = true
  start : ∀ c ∈ id.toList.head?, isDigit c = false
  unreserved : id ∉ keywords

/-- The letters that are put in front begin no reserved word. -/
theorem isPackageName_api {cs : List Char}
    (inside : ∀ c ∈ cs, isLetter c = true ∨ isDigit c = true) :
    IsPackageName ("api" ++ String.ofList cs) := by
  have front : ("api" ++ String.ofList cs).toList = 'a' :: 'p' :: 'i' :: cs := by simp
  constructor
  case nonempty => simp
  case inside =>
    rw [front]
    simp only [List.forall_mem_cons]
    exact ⟨.inl rfl, .inl rfl, .inl rfl, inside⟩
  case start =>
    rw [front]
    rintro c ⟨⟩
    rfl
  case unreserved =>
    have each : ∀ word ∈ keywords, word.toList.take 3 ≠ ['a', 'p', 'i'] := by decide
    intro mem
    exact each _ mem (by rw [front]; rfl)

theorem isPackageName_packageName (module : String) : IsPackageName (packageName module) := by
  unfold packageName
  generalize kept : (lowerCase module).toList.filter (fun c => isLetter c || isDigit c) = cs
  have inside : ∀ c ∈ cs, isLetter c = true ∨ isDigit c = true := by
    intro c mem
    rw [← kept] at mem
    exact Bool.or_eq_true_iff.mp (List.mem_filter.mp mem).2
  dsimp only
  split
  case isTrue => exact isPackageName_api inside
  case isFalse free =>
      obtain ⟨⟨nonempty, start⟩, unreserved⟩ : (cs ≠ [] ∧ ∀ c ∈ cs.head?, isDigit c = false) ∧
          String.ofList cs ∉ keywords := by
        simpa [Option.any_eq_false] using free
      refine ⟨by simpa using nonempty, ?_, ?_, unreserved⟩
      · rwa [String.toList_ofList]
      · rwa [String.toList_ofList]

/-! ## Fields of errors -/

/-- The names of the declared fields of an error as exported identifiers. -/
def exportedFields (e : ErrorDecl) : List String :=
  (OrderedMap.entriesOf e.fields).map fun d => exported d.1

/-- An identifier, with an underscore if a method of errors has it. -/
def freeName (id : String) : String := if id ∈ errorMethods then id ++ "_" else id

/-- The declaration of a method without parameters on a type. -/
def IsMethodOf (type method : String) (d : Declaration) : Prop :=
  ∃ docs result body,
    d = .function docs ("(e *" ++ type ++ ") " ++ method ++ "() " ++ result) body

theorem isMethodOf_function {type method result signature : String} {docs : List String}
    {body : List BodyLine} (same : ") " ++ method ++ "() " ++ result = signature) :
    IsMethodOf type method (.function docs ("(e *" ++ type ++ signature) body) := by
  refine ⟨docs, result, body, ?_⟩
  rw [← same]
  simp only [String.append_assoc]

/-- No method of errors ends in the underscore that marks a field. -/
theorem freeName_not_mem_errorMethods (id : String) : freeName id ∉ errorMethods := by
  unfold freeName
  split
  · exact concat_underscore_not_mem (by decide) id
  · assumption

theorem freeName_inj {a b : String} (plainA : '_' ∉ a.toList) (plainB : '_' ∉ b.toList)
    (same : freeName a = freeName b) : a = b := by
  have marked {id : String} : '_' ∈ (id ++ "_").toList := by simp
  unfold freeName at same
  split at same <;> split at same
  · simpa using same
  · exact absurd (same ▸ marked) plainB
  · exact absurd (same ▸ marked) plainA
  · exact same

theorem nodup_map_freeName_iff (e : ErrorDecl) :
    ((exportedFields e).map freeName).Nodup ↔ (exportedFields e).Nodup := by
  have plain : ∀ id ∈ exportedFields e, '_' ∉ id.toList :=
    List.forall_mem_map.mpr fun d _ => underscore_not_mem_exported d.1
  refine ⟨List.Nodup.of_map _, fun distinct => distinct.map_on ?_⟩
  exact fun a memA b memB => freeName_inj (plain a memA) (plain b memB)

theorem apart_name (f : StructField) : (apart f).name = freeName f.name := by
  unfold apart freeName
  simp only [List.contains_iff_mem]
  split <;> rfl

/-- An error is a struct, whose fields have free names, and its methods. -/
theorem exists_names_of_errorDeclarations {s : Scope} {e : ErrorDecl} {im im' : Imports}
    {declarations : List Declaration}
    (done : errorDeclarations s name e im = .ok (declarations, im')) :
    ∃ fields methods,
      declarations = .struct (docLines 0 e.docs) (name ++ "Error") none none fields :: methods ∧
      List.Forall₂ (IsMethodOf (name ++ "Error")) errorMethods methods ∧
      fields.map (·.name) = (exportedFields e).map freeName := by
  obtain ⟨fields, imports, message, start, made, rfl⟩ := exists_of_errorDeclarations done
  refine ⟨_, _, rfl, ?methods, ?names⟩
  case methods =>
    refine .cons ?_ (.cons ?_ .nil)
    · exact isMethodOf_function (by decide : ") " ++ "Error" ++ "() " ++ "string" = _)
    · exact isMethodOf_function
        (by decide : ") " ++ "ServiceError" ++ "() " ++ "*cytonic.ServiceError" = _)
  case names =>
    have named : fields.map (·.name) = exportedFields e :=
      map_eq_map_of_forall₂ ((forall₂_of_fieldsOf made).imp fun d f each => each.1).flip
    rw [← named, List.map_map, List.map_map]
    exact List.map_congr_left fun f _ => apart_name f

/-- From a name of letters, digits and separators of ASCII comes an exported identifier of ASCII,
and from any name of a module the name of a package. An error is declared exactly if its category
is a known one and the types of its fields convert. It is then declared as a struct and its methods.
The fields of the struct have the exported names of the declared fields, with an underscore if a
method has the name: they are distinct exactly if the exported names are, and none is the name of a
method. -/
theorem declarationNames_legal :
    (∀ name, IsDefinitionName name → IsExportedName (exported name)) ∧
    (∀ module, IsPackageName (packageName module)) ∧
    ∀ (s : Scope) (name : String) (e : ErrorDecl) (im : Imports),
      (Succeeds (errorDeclarations s name e im) ↔ (codeConstant? e.effectiveCode).isSome = true ∧
        ∀ r ∈ fieldTypes e.fields, s.project.Converts r) ∧
      ∀ declarations im', errorDeclarations s name e im = .ok (declarations, im') →
        ∃ fields methods,
          declarations =
            .struct (docLines 0 e.docs) (name ++ "Error") none none fields :: methods ∧
          List.Forall₂ (IsMethodOf (name ++ "Error")) errorMethods methods ∧
          fields.map (·.name) = (exportedFields e).map freeName ∧
          ((fields.map (·.name)).Nodup ↔ (exportedFields e).Nodup) ∧
          ∀ f ∈ fields, f.name ∉ errorMethods := by
  refine ⟨fun name plain => isExportedName_exported plain, isPackageName_packageName,
    fun s name e im => ⟨(reads_errorDeclarations s name e im).succeeds_iff s.project, ?_⟩⟩
  intro declarations im' done
  obtain ⟨fields, methods, same, each, names⟩ := exists_names_of_errorDeclarations done
  refine ⟨fields, methods, same, each, names, ?distinct, fun f mem => ?free⟩
  case distinct =>
    rw [names]
    exact nodup_map_freeName_iff e
  case free =>
    have renamed : f.name ∈ (exportedFields e).map freeName := names ▸ List.mem_map_of_mem mem
    obtain ⟨id, -, free⟩ := List.mem_map.mp renamed
    rw [← free]
    exact freeName_not_mem_errorMethods id

/-- An error of which two fields are called like its methods. -/
def clash : ErrorDecl where
  code := some .conflict
  fields := some ⟨[("error", ⟨"string", "", none⟩), ("service_error", ⟨"list[Item]", "", none⟩),
    ("detail", ⟨"string", "", none⟩)], by decide⟩
  docs := ""

/-- A letter stands in front of a first word with a digit, and fields called like methods are
marked. -/
theorem declarationNames_legal_clash :
    IsDefinitionName "2nd-list id" ∧ exported "2nd-list id" = "X2ndListID" ∧
      IsExportedName (exported "2nd-list id") ∧
      ∃ im' fields methods,
        errorDeclarations ⟨.todo, "todo", .todo, "example.com"⟩ "Clash" clash (.new "") =
            .ok (.struct [] "ClashError" none none fields :: methods, im') ∧
          fields.map (·.name) = ["Error_", "ServiceError_", "Detail"] ∧
          (fields.map (·.name)).Nodup ∧
          List.Forall₂ (IsMethodOf "ClashError") errorMethods methods := by
  obtain ⟨identifiers, -, errors⟩ := declarationNames_legal
  have plain : IsDefinitionName "2nd-list id" := by decide
  have declared : Succeeds
      (errorDeclarations ⟨.todo, "todo", .todo, "example.com"⟩ "Clash" clash (.new "")) := by
    decide +kernel
  obtain ⟨⟨declarations, im'⟩, done⟩ := declared
  obtain ⟨fields, methods, rfl, heads, names, distinct_iff, -⟩ :=
    (errors _ "Clash" clash _).2 declarations im' done
  have marked : (exportedFields clash).map freeName = ["Error_", "ServiceError_", "Detail"] := by
    decide
  exact ⟨plain, by decide, identifiers _ plain, im', fields, methods, done,
    names.trans marked, distinct_iff.mpr (by decide), heads⟩

end Go

end ApiCompiler
