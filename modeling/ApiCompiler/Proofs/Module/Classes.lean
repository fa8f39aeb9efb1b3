import ApiCompiler.Proofs.Module.Routes
import ApiCompiler.Proofs.Yaml.Faults

/-!
# The classes of faults of a definition

Reading a definition ends with a fault of the document, which has no class of its own, or with one
of a route or of an argument. Decoding makes the former an invalid configuration. The faults that
validation finds have a class by themselves.
-/

namespace ApiCompiler

open Fallible Yaml
open Yaml.Fit (FailsOnly)

namespace Error

/-- What reading a definition can end with: at most the fault of a route or of an argument has a
class. -/
def IsReadingFault (e : Error) : Prop :=
  e.HasCause fun cause => ∀ kind ∈ cause.ownClass, kind ∈ [ErrorClass.badPath, .argument]

/-- The classes of the faults that validation finds. -/
def validationClasses : List ErrorClass := [.exclusive, .badPath, .argument, .invalidConfig]

/-- What validation can end with. -/
def IsValidationFault (e : Error) : Prop :=
  e.HasCause fun cause => ∃ kind ∈ validationClasses, cause.ownClass = some kind

theorem hasMisfits_isReadingFault : HasMisfits IsReadingFault where
  yaml _ := nofun
  within _ _ := id

end Error

open Error

/-! ## Reading -/

theorem failsOnly_textPart {R : Type} (type : String) (get : R → String) (put : String → R → R)
    (n : Node) (r : R) : FailsOnly IsReadingFault (textPart type get put n r) :=
  failsOnly_part hasMisfits_isReadingFault
    (Reader.failsOnly_text hasMisfits_isReadingFault type) get put n r

theorem failsOnly_docsPart {R : Type} (get : R → Text.RawText) (put : Text.RawText → R → R)
    (n : Node) (r : R) : FailsOnly IsReadingFault (docsPart get put n r) :=
  failsOnly_part hasMisfits_isReadingFault
    (Reader.failsOnly_rawText hasMisfits_isReadingFault "string") get put n r

theorem failsOnly_shortOr {R : Type} {short : String → R}
    {long : Surroundings → Node → Except Error R}
    (inner : ∀ s n, Fallible.FailsOnly IsReadingFault (long s n)) (s : Surroundings) (n : Node) :
    Fallible.FailsOnly IsReadingFault (shortOr short long s n) := by
  unfold shortOr
  split
  · exact .ok _
  · exact inner s n

theorem failsOnly_groupReader {V : Type} {read : Surroundings → Node → Except Error V}
    (inner : ∀ s n, Fallible.FailsOnly IsReadingFault (read s n)) (type : String) (n : Node)
    (before : Option (OrderedMap V)) :
    FailsOnly IsReadingFault (groupReader type read n before) :=
  Reader.failsOnly_optional hasMisfits_isReadingFault
    (failsOnly_orderedMap hasMisfits_isReadingFault inner) _ _ n before

namespace Yaml.RecordType

variable {R : Type} {type : RecordType R}

/-- The parts of a record have the faults of readings only. -/
def HasReadableParts (type : RecordType R) : Prop :=
  ∀ key set, type.set key = some set → ∀ n r, FailsOnly IsReadingFault (set n r)

theorem HasReadableParts.reader (parts : type.HasReadableParts) (n : Node) (before : R) :
    FailsOnly IsReadingFault (type.reader n before) :=
  failsOnly_reader hasMisfits_isReadingFault parts n before

theorem HasReadableParts.readAlone (parts : type.HasReadableParts) (s : Surroundings) (n : Node) :
    Fallible.FailsOnly IsReadingFault (type.readAlone s n) :=
  Reader.failsOnly_alone hasMisfits_isReadingFault parts.reader _ s n

theorem HasReadableParts.optional (parts : type.HasReadableParts) (n : Node)
    (before : Option R) : FailsOnly IsReadingFault (type.optional n before) :=
  Reader.failsOnly_optional hasMisfits_isReadingFault parts.reader _ _ n before

/-- A declaration that is read by itself and may be null. -/
theorem HasReadableParts.declaration (parts : type.HasReadableParts) (s : Surroundings)
    (n : Node) : Fallible.FailsOnly IsReadingFault (type.optional.alone none s n) :=
  Reader.failsOnly_alone hasMisfits_isReadingFault parts.optional none s n

end Yaml.RecordType

theorem Auth.hasReadableParts : recordType.HasReadableParts := by
  intro key set known
  unfold recordType at known
  dsimp only at known
  split at known
  all_goals cases known
  · exact failsOnly_textPart _ _ _
  · exact failsOnly_textPart _ _ _

namespace Field

theorem hasReadableParts (name : String) : (recordType name).HasReadableParts := by
  intro key set known
  unfold recordType at known
  dsimp only at known
  split at known
  all_goals cases known
  · exact failsOnly_textPart _ _ _
  · exact failsOnly_docsPart _ _
  · exact failsOnly_part hasMisfits_isReadingFault (failsOnly_untyped hasMisfits_isReadingFault) _ _

theorem failsOnly_ofNode (s : Surroundings) (n : Node) :
    Fallible.FailsOnly IsReadingFault (ofNode s n) :=
  failsOnly_shortOr (fun s n => ((hasReadableParts _).readAlone s n).bind fun _ _ => .pure _) s n

theorem failsOnly_read (s : Surroundings) (n : Node) :
    Fallible.FailsOnly IsReadingFault (read s n) :=
  Reader.failsOnly_alone hasMisfits_isReadingFault
    (Reader.failsOnly_orNull
      (fun n before => ((hasReadableParts _).reader n before).bind fun _ => .pure _)
      (Reader.failsOnly_embedded failsOnly_ofNode)) blank s n

end Field

namespace EnumValue

theorem hasReadableParts (name : String) : (recordType name).HasReadableParts := by
  intro key set known
  unfold recordType at known
  dsimp only at known
  split at known
  all_goals cases known
  · exact failsOnly_textPart _ _ _
  · exact failsOnly_docsPart _ _

theorem failsOnly_reader (n : Node) (before : EnumValue) :
    FailsOnly IsReadingFault (reader n before) :=
  Reader.failsOnly_orNull (hasReadableParts _).reader
    (Reader.failsOnly_embedded (failsOnly_shortOr (hasReadableParts _).readAlone)) n before

end EnumValue

namespace TypeDecl

theorem hasReadableParts : recordType.HasReadableParts := by
  have text := Reader.failsOnly_text hasMisfits_isReadingFault
  intro key set known
  unfold recordType at known
  dsimp only at known
  split at known
  all_goals cases known
  · exact failsOnly_part hasMisfits_isReadingFault
      (Reader.failsOnly_list hasMisfits_isReadingFault EnumValue.failsOnly_reader _ _) _ _
  · exact failsOnly_part hasMisfits_isReadingFault
      (Reader.failsOnly_optional hasMisfits_isReadingFault (text "string") _ _) _ _
  · exact failsOnly_part hasMisfits_isReadingFault (failsOnly_groupReader Field.failsOnly_read _)
      _ _
  · exact failsOnly_part hasMisfits_isReadingFault
      (failsOnly_groupReader
        (Reader.failsOnly_alone hasMisfits_isReadingFault (text "string") "") _) _ _
  · exact failsOnly_docsPart _ _

end TypeDecl

theorem ErrorDecl.hasReadableParts : recordType.HasReadableParts := by
  intro key set known
  unfold recordType at known
  dsimp only at known
  split at known
  all_goals cases known
  · exact failsOnly_textPart _ _ _
  · exact failsOnly_part hasMisfits_isReadingFault (failsOnly_groupReader Field.failsOnly_read _)
      _ _
  · exact failsOnly_docsPart _ _

namespace Argument

theorem failsOnly_validate (a : Argument) : Fallible.FailsOnly
    (HasCause fun cause => cause.ownClass = some .argument) a.validate := by
  unfold validate
  split
  · exact .ok _
  · exact .error rfl
  · exact .error rfl
  · exact .ok _

theorem hasReadableParts : recordType.HasReadableParts := by
  intro key set known
  unfold recordType at known
  dsimp only at known
  split at known
  all_goals cases known
  · exact failsOnly_textPart _ _ _
  · exact failsOnly_textPart _ _ _

theorem failsOnly_ofNode (s : Surroundings) (n : Node) :
    Fallible.FailsOnly IsReadingFault (ofNode s n) := by
  refine failsOnly_shortOr (fun s n => (hasReadableParts.readAlone s n).bind fun a _ => ?_) s n
  refine (a.failsOnly_validate.mono fun e caused => ?_).bind fun _ _ => .pure a
  exact caused.mono fun cause own kind mem => by
    rw [own] at mem
    cases mem
    decide

theorem failsOnly_read (s : Surroundings) (n : Node) :
    Fallible.FailsOnly IsReadingFault (read s n) :=
  Reader.failsOnly_alone hasMisfits_isReadingFault
    (Reader.failsOnly_optional hasMisfits_isReadingFault
      (Reader.failsOnly_embedded failsOnly_ofNode) _ _) none s n

end Argument

namespace Route

theorem failsOnly_parse (written : String) : Fallible.FailsOnly IsReadingFault (parse written) := by
  intro e failed
  obtain ⟨flaw, rfl⟩ := exists_flaw_of_parse failed
  intro kind mem
  cases mem
  decide

theorem hasReadableParts : recordType.HasReadableParts := by
  intro key set known
  unfold recordType at known
  dsimp only at known
  split at known
  all_goals cases known
  exact failsOnly_textPart _ _ _

theorem failsOnly_reader (n : Node) (before : Route) :
    FailsOnly IsReadingFault (reader n before) := by
  unfold reader
  split
  · refine (Reader.failsOnly_text hasMisfits_isReadingFault _ _ _).bind ?_
    rintro ⟨written, good⟩
    dsimp only
    split
    · exact .pure _
    · split
      · exact .pure _
      · rename_i e failed
        exact .fail (failsOnly_parse _ e failed)
  · exact hasReadableParts.reader _ before

end Route

theorem Endpoint.hasReadableParts : recordType.HasReadableParts := by
  intro key set known
  unfold recordType at known
  dsimp only at known
  split at known
  all_goals cases known
  · exact failsOnly_part hasMisfits_isReadingFault Route.failsOnly_reader _ _
  · exact failsOnly_part hasMisfits_isReadingFault Auth.hasReadableParts.optional _ _
  · exact failsOnly_part hasMisfits_isReadingFault (failsOnly_groupReader Argument.failsOnly_read _)
      _ _
  · exact failsOnly_textPart _ _ _
  · exact failsOnly_docsPart _ _

namespace Module

theorem hasReadableParts : recordType.HasReadableParts := by
  intro key set known
  unfold recordType at known
  dsimp only at known
  split at known
  all_goals cases known
  · exact failsOnly_textPart _ _ _
  · exact failsOnly_docsPart _ _
  · exact failsOnly_part hasMisfits_isReadingFault Auth.hasReadableParts.optional _ _
  · exact failsOnly_part hasMisfits_isReadingFault
      (failsOnly_groupReader TypeDecl.hasReadableParts.declaration _) _ _
  · exact failsOnly_part hasMisfits_isReadingFault
      (failsOnly_groupReader ErrorDecl.hasReadableParts.declaration _) _ _
  · exact failsOnly_part hasMisfits_isReadingFault
      (failsOnly_groupReader Endpoint.hasReadableParts.declaration _) _ _

theorem failsOnly_parse (strict : Bool) (text : String) :
    Fallible.FailsOnly IsReadingFault (parse strict text) :=
  Reader.failsOnly_ofText hasMisfits_isReadingFault hasReadableParts.reader empty strict text

end Module

/-! ## Validation -/

/-- The class of a fault that validation finds. -/
theorem Error.isValidationFault_of_ownClass {e : Error} {kind : ErrorClass}
    (caused : e.HasCause fun cause => cause.ownClass = some kind)
    (mem : kind ∈ validationClasses) : e.IsValidationFault :=
  caused.mono fun _ own => ⟨kind, mem, own⟩

theorem Error.isValidationFault_config (flaw : ConfigFlaw) : IsValidationFault (.config flaw) :=
  ⟨.invalidConfig, by decide, rfl⟩

theorem Error.isValidationFault_route (flaw : RouteFlaw) : IsValidationFault (.route flaw) :=
  ⟨.badPath, by decide, rfl⟩

theorem Error.isValidationFault_argument (flaw : ArgumentFlaw) :
    IsValidationFault (.argument flaw) :=
  ⟨.argument, by decide, rfl⟩

theorem Auth.failsOnly_validate (a : Auth) :
    Fallible.FailsOnly IsValidationFault a.validate := by
  unfold validate
  split
  · exact .ok _
  · split
    · exact .error (isValidationFault_config _)
    · exact .ok _
  · split
    · exact .error (isValidationFault_config _)
    · exact .ok _
  · exact .error (isValidationFault_config _)

theorem TypeDecl.failsOnly_validate (t : TypeDecl) (name : Option String) :
    Fallible.FailsOnly IsValidationFault (t.validate name) := by
  unfold validate
  split
  · exact .error ⟨.exclusive, by decide, rfl⟩
  · exact .ok _

theorem ErrorDecl.failsOnly_validate (e : ErrorDecl) :
    Fallible.FailsOnly IsValidationFault e.validate := by
  unfold validate
  split
  · exact .ok _
  · exact .error (isValidationFault_config _)

theorem Endpoint.failsOnly_resolveArguments (e : Endpoint) :
    Fallible.FailsOnly IsValidationFault e.resolveArguments := by
  unfold resolveArguments resolve
  dsimp only
  split
  · exact .error (isValidationFault_route _)
  · split
    · exact .error (isValidationFault_argument _)
    · exact .ok _

namespace Module

theorem failsOnly_labelled {α : Type} {x : Except Error α}
    (fails : Fallible.FailsOnly IsValidationFault x) (label : String) :
    Fallible.FailsOnly IsValidationFault (labelled label x) :=
  fails.labelled fun _ => id

theorem failsOnly_checkAuth? (label : String) (auth : Option Auth) :
    Fallible.FailsOnly IsValidationFault (checkAuth? label auth) := by
  unfold checkAuth?
  split
  · rename_i a
    refine failsOnly_labelled ?_ label
    unfold checkAuth
    split
    · exact .error (isValidationFault_config _)
    · exact .error (isValidationFault_config _)
    · exact a.failsOnly_validate
  · exact .ok _

theorem failsOnly_requireText (key value : String) :
    Fallible.FailsOnly IsValidationFault (requireText key value) := by
  unfold requireText
  split
  · exact .error (isValidationFault_config _)
  · exact .ok _

theorem failsOnly_checkFields (fields : Option (OrderedMap Field)) :
    Fallible.FailsOnly IsValidationFault (checkFields fields) :=
  .forM fun _ _ => failsOnly_labelled (failsOnly_requireText _ _) _

theorem failsOnly_checkValues (values : List EnumValue) :
    Fallible.FailsOnly IsValidationFault (checkValues values) := by
  unfold checkValues
  dsimp only
  split
  · exact .ok _
  · exact .error (isValidationFault_config _)

theorem failsOnly_checkType (name : String) (t : TypeDecl) :
    Fallible.FailsOnly IsValidationFault (checkType name t) := by
  refine (failsOnly_labelled (failsOnly_checkValues _) _).bind fun _ _ =>
    (failsOnly_labelled (failsOnly_checkFields _) _).bind fun _ _ =>
      (t.failsOnly_validate _).bind fun _ _ => ?_
  split
  · exact .error (isValidationFault_config _)
  · exact .pure _

theorem failsOnly_checkError (e : ErrorDecl) :
    Fallible.FailsOnly IsValidationFault (checkError e) :=
  e.failsOnly_validate.bind fun _ _ => failsOnly_checkFields e.fields

theorem failsOnly_checkArgument (endpoint name : String) (argument : Option Argument) :
    Fallible.FailsOnly IsValidationFault (checkArgument endpoint name argument) := by
  unfold checkArgument
  split
  · exact .error (isValidationFault_argument _)
  · rename_i a
    have kind : Fallible.FailsOnly IsValidationFault a.validate :=
      a.failsOnly_validate.mono fun _ caused => isValidationFault_of_ownClass caused (by decide)
    exact failsOnly_labelled (kind.bind fun _ _ => failsOnly_requireText _ _) _

theorem failsOnly_checkEndpoint (name : String) (e : Endpoint) :
    Fallible.FailsOnly IsValidationFault (checkEndpoint name e) := by
  have route : Fallible.FailsOnly IsValidationFault (requireRoute name e.route) := by
    unfold requireRoute
    split
    · exact .error (isValidationFault_route _)
    · exact .ok _
  exact route.bind fun _ _ => (failsOnly_checkAuth? _ e.auth).bind fun _ _ =>
    (FailsOnly.forM fun _ _ => failsOnly_checkArgument _ _ _).bind fun _ _ =>
      (failsOnly_labelled e.failsOnly_resolveArguments _).bind fun _ _ => .pure _

theorem failsOnly_checkAll {V : Type} (noun : String) {check : String → V → Except Error Unit}
    (each : ∀ name v, Fallible.FailsOnly IsValidationFault (check name v))
    (declarations : Option (OrderedMap (Option V))) :
    Fallible.FailsOnly IsValidationFault (checkAll noun check declarations) := by
  refine .forM ?_
  rintro ⟨name, d⟩ -
  cases d with
  | none => exact .error (isValidationFault_config _)
  | some d => exact each name d

theorem failsOnly_validate (m : Module) : Fallible.FailsOnly IsValidationFault m.validate :=
  (failsOnly_checkAuth? _ _).bind fun _ _ =>
    (failsOnly_checkAll _ failsOnly_checkType _).bind fun _ _ =>
      (failsOnly_checkAll _ (fun _ e => failsOnly_labelled (failsOnly_checkError e) _) _).bind
        fun _ _ => failsOnly_checkAll _ failsOnly_checkEndpoint _

/-! ## Decoding -/

/-- The error of decoding is that of the reading or that of the validation. -/
theorem decode_eq_error_iff {text : String} {e : Error} :
    decode text = .error e ↔
      (∃ fault, parse true text = .error fault ∧
        e = (Error.within "decoding module" fault).orInvalidConfig) ∨
      ∃ m, parse true text = .ok m ∧ m.validate = .error e := by
  unfold decode
  cases parse true text with
  | error fault => simp [bind, Except.bind, eq_comm]
  | ok m =>
      cases result : m.validate with
      | error fault => simp [bind, Except.bind, result]
      | ok done => simp [bind, Except.bind, pure, Except.pure, result]

/-- Decoding gives a module that validates, or an error of exactly one class, wherever the fault
lies. The class is never one of those that the resolution of type references reports, nor that of
modules added twice. -/
theorem decode_classified (text : String) :
    (∃ m, decode text = .ok m ∧ m.validate = .ok ()) ∨
      ∃ e, decode text = .error e ∧ ∃ kind ∈ ErrorClass.definitionClasses,
        (∀ other, e.isA other ↔ other = kind) ∧
          kind ∉ [.badTypeFormat, .arity, .unresolvedType, .duplicateModule] := by
  cases result : decode text with
  | ok m => exact .inl ⟨m, rfl, (decode_eq_ok_iff.mp result).2⟩
  | error e =>
      have classified : ∃ kind ∈ validationClasses, ∀ other, e.isA other ↔ other = kind := by
        rcases decode_eq_error_iff.mp result with ⟨fault, failed, rfl⟩ | ⟨m, -, failed⟩
        · have caused : (Error.within "decoding module" fault).IsReadingFault :=
            failsOnly_parse true text fault failed
          obtain ⟨kind, mem, classes⟩ := caused.isA_orInvalidConfig_iff (by decide)
          exact ⟨kind, (by decide : [.invalidConfig, .badPath, .argument] ⊆ validationClasses) mem,
            classes⟩
        · obtain ⟨cause, ⟨kind, mem, own⟩, classes⟩ :=
            (failsOnly_validate m e failed).exists_isA_iff
          exact ⟨kind, mem, fun other => by rw [classes, own, Option.some.injEq, eq_comm]⟩
      obtain ⟨kind, mem, classes⟩ := classified
      have among : ∀ kind ∈ validationClasses, kind ∈ ErrorClass.definitionClasses ∧
          kind ∉ [.badTypeFormat, .arity, .unresolvedType, .duplicateModule] := by decide
      exact .inr ⟨e, rfl, kind, (among kind mem).1, classes, (among kind mem).2⟩

end Module

end ApiCompiler
