import ApiCompiler.Proofs.Convert.Targets
import ApiCompiler.Proofs.Module.Valid
import ApiCompiler.Proofs.Python.Footprint

/-!
# Signatures of Python methods

The method of an endpoint has the parameter `self`, one for credentials if the endpoint needs them,
and the declared arguments in their order. An argument has a default exactly if its reference
resolves to an optional type, although only the text of the reference is looked at. No name stands
twice in a signature. Python accepts it if moreover no argument without a default is declared behind
one with a default.
-/

namespace ApiCompiler

open Fallible Text

/-! ## References to optional types -/

namespace Datatype

variable {s : String} {d : Datatype}

/-- The builtin optional type with its parameter. -/
def IsOptional (d : Datatype) : Prop := ∃ inner, d = .mk "optional" (some [inner])

/-- A reference to an optional type. -/
def NamesOptional (s : String) : Prop := ∃ d, Datatype.parse s = .ok d ∧ d.IsOptional

/-- What a trimmed reference begins with, up to its first bracket, is its name without white space
at the start. -/
theorem Derives.hasStart_trim_iff (derives : Derives s d) (word : String)
    (word_plain : '[' ∉ word.toList) : hasStart (word ++ "[") (trim s) = true ↔
      d.params?.isSome = true ∧ d.name.toList.dropWhile isBlank = word.toList := by
  rw [hasStart, List.isPrefixOf_iff_prefix, String.toList_append, toList_trim]
  cases derives with
  | plain isName =>
      refine iff_of_false (fun start => isName.noOpening ?_) nofun
      obtain ⟨front, back, split, -⟩ := exists_ends_trimBy isBlank s.toList
      have inside : '[' ∈ trimBy isBlank s.toList := start.subset (by simp)
      rw [split]
      exact List.mem_append_left _ (List.mem_append_right _ inside)
  | @generic name pieces params isName _ _ _ _ =>
      have ends : (name ++ "[" ++ joinWith "," pieces ++ "]").toList =
          (name.toList ++ '[' :: [','].intercalate (pieces.map String.toList)) ++ [']'] := by
        rw [toList_generic]
        simp
      have front_plain : '[' ∉ name.toList.dropWhile isBlank := fun mem =>
        isName.noOpening ((List.dropWhile_suffix _).subset mem)
      have trimmed : trimBy isBlank (name ++ "[" ++ joinWith "," pieces ++ "]").toList =
          name.toList.dropWhile isBlank ++
            '[' :: ([','].intercalate (pieces.map String.toList) ++ [']']) := by
        rw [ends, trimBy_concat _ (by decide), List.append_assoc, List.dropWhile_append]
        split
        · rename_i blank
          rw [List.isEmpty_iff.mp blank]
          rfl
        · rfl
      rw [trimmed]
      exact (concat_prefix_iff word_plain front_plain).trans (and_iff_right rfl).symm

end Datatype

theorem Templates.builtinArity?_optional {name : String} {arity : Nat}
    (known : builtinArity? name = some arity) :
    name.toList.dropWhile isBlank = name.toList ∧ (name = "optional" → arity = 1) := by
  obtain ⟨e, found, rfl⟩ := Option.map_eq_some_iff.mp known
  obtain rfl : e.1 = name := by simpa using List.find?_some found
  have each : ∀ e ∈ builtinArities,
      e.1.toList.dropWhile isBlank = e.1.toList ∧ (e.1 = "optional" → e.2 = 1) := by decide
  exact each e (List.mem_of_find?_eq_some found)

/-- A reference that converts begins like an optional type exactly if it is one: a custom type
takes no parameters, and no builtin type has white space in front of its name. -/
theorem Project.Admits.hasStart_optional_iff {p : Project} {s : String} {d : Datatype}
    (read : Datatype.parse s = .ok d) (admits : p.Admits d) :
    hasStart "optional[" (trim s) = true ↔ d.IsOptional := by
  have start : hasStart "optional[" (trim s) = true ↔
      d.params?.isSome = true ∧ d.name.toList.dropWhile isBlank = "optional".toList :=
    (Datatype.parse_eq_ok_iff.mp read).hasStart_trim_iff "optional" (by decide)
  refine start.trans ?_
  rcases d with ⟨name, _ | params⟩
  · constructor
    · rintro ⟨generic, -⟩
      cases generic
    · rintro ⟨inner, same⟩
      cases same
  · rw [Admits] at admits
    cases known : Templates.builtinArity? name with
    | none =>
        simp only [Datatype.name, known] at admits
        cases admits.1
    | some arity =>
        simp only [Datatype.name, known] at admits
        obtain ⟨front, one⟩ := Templates.builtinArity?_optional known
        rw [Datatype.name, front, String.toList_inj, Datatype.params?]
        constructor
        · rintro ⟨-, rfl⟩
          obtain ⟨inner, rfl⟩ := List.length_eq_one_iff.mp (admits.trans (one rfl))
          exact ⟨inner, rfl⟩
        · rintro ⟨inner, same⟩
          cases same
          exact ⟨rfl, rfl⟩

namespace TypeRef

/-- A resolved type is optional exactly if its reference is an optional type. -/
theorem ResolvedIn.isOptional_iff {p : Project} {r : TypeRef} (resolved : r.ResolvedIn p) :
    r.isOptional = true ↔ r.erase.IsOptional := by
  cases resolved with
  | @builtin name params known each =>
      have one := (Templates.builtinArity?_optional known).2
      rw [isOptional, beq_iff_eq]
      constructor
      · rintro rfl
        obtain ⟨inner, rfl⟩ := List.length_eq_one_iff.mp (one rfl)
        exact ⟨inner.erase, by rw [erase, eraseAll, eraseAll]⟩
      · rintro ⟨inner, same⟩
        cases params with
        | nil => cases same
        | cons r rest =>
            rw [erase] at same
            exact (Datatype.mk.inj same).1
  | @custom name loc free found =>
      refine iff_of_false Bool.false_ne_true ?_
      rintro ⟨inner, same⟩
      rw [erase] at same
      cases same

end TypeRef

/-- The text of a reference that converts begins like an optional type exactly if it resolves to
one. -/
theorem Converter.exists_typeRef {p : Project} {c : Converter String} {s h : String}
    (standard : c.backend.templates.Standard) (project : c.project = p)
    (converted : (c.convert s).result = .ok h) (module : String) :
    ∃ r, ((TypeRef.converter p module).convert s).result = .ok r ∧
      (hasStart "optional[" (trim s) = true ↔ r.isOptional = true) ∧
      (r.isOptional = true ↔ Datatype.NamesOptional s) := by
  subst project
  have accepted : failure? ((TypeRef.converter c.project module).convert s).result = none := by
    have same : _ = failure? (c.convert s).result :=
      failure?_convert_eq (c := TypeRef.converter c.project module) TypeRef.standard_templates
        standard rfl s
    rw [same, converted, failure?_ok]
  obtain ⟨r, resolves⟩ := failure?_eq_none_iff.mp accepted
  obtain ⟨read, resolved⟩ := TypeRef.erase_of_convert resolves
  obtain ⟨d, read', admitted⟩ := (succeeds_convert_iff standard s).mp ⟨h, converted⟩
  cases read.symm.trans read'
  have root : c.project.Admits r.erase := admitted _ (by rw [Datatype.nodes_eq_cons]; simp)
  refine ⟨r, resolves, ?_, ?_⟩
  · rw [root.hasStart_optional_iff read, resolved.isOptional_iff]
  · rw [resolved.isOptional_iff]
    constructor
    · exact fun optional => ⟨_, read, optional⟩
    · rintro ⟨d, read', optional⟩
      cases read.symm.trans read'
      exact optional

/-! ## A service with optional arguments -/

/-- The page that is searched may be left out. -/
def Endpoint.search : Endpoint :=
  ⟨⟨"GET", [.literal "/search"]⟩, none, some ⟨[("text", some ⟨"string", none⟩),
    ("page", some ⟨"optional[integer]", none⟩)], by decide⟩, "list[string]", ""⟩

/-- The same arguments in another order. -/
def Endpoint.browse : Endpoint :=
  ⟨⟨"GET", [.literal "/browse"]⟩, none, some ⟨[("page", some ⟨"optional[integer]", none⟩),
    ("text", some ⟨"string", none⟩)], by decide⟩, "list[string]", ""⟩

/-- A module with both endpoints. -/
def Module.search : Module :=
  ⟨"Search", "", none, none, none,
    some ⟨[("search", some .search), ("browse", some .browse)], by decide⟩⟩

/-- A project with this module only. -/
def Project.search : Project := ⟨⟨[("search", .search)], by decide⟩⟩

namespace Python

/-! ## Parameters -/

/-- A parameter of a method: a name, a type unless the name says enough, and perhaps the default
`None`. -/
structure Parameter where
  name : String
  hint : Option String
  hasDefault : Bool
deriving DecidableEq

namespace Parameter

/-- The method's own object. -/
def self : Parameter := ⟨"self", none, false⟩

/-- The credentials of a call. -/
def credentials : Parameter := ⟨"auth", some "Credentials", false⟩

/-- A parameter as a signature writes it. -/
def text (p : Parameter) : String :=
  p.name ++ p.hint.elim "" (": " ++ ·) ++ (if p.hasDefault then " = None" else "")

theorem text_hint (name h : String) (hasDefault : Bool) :
    (Parameter.mk name (some h) hasDefault).text =
      name ++ ": " ++ h ++ (if hasDefault then " = None" else "") := by
  simp [text, String.append_assoc]

end Parameter

variable {p : Project} {current : String} {source : String → String} {c : Converter String}
variable {m : Module} {isAsync : Bool} {endpoint argument text : String} {a : Argument}
variable {e : Endpoint} {im im' : Imports} {method : Method}

/-- The parameter that an argument with a hint is shown as. -/
def argumentParameter (argument : String) (a : Argument) (h : String) : Parameter :=
  ⟨argument, some h, hasStart "optional[" (trim a.type)⟩

theorem text_argumentParameter (argument : String) (a : Argument) (h : String) :
    (argumentParameter argument a h).text =
      argument ++ ": " ++ h ++ (if hasStart "optional[" (trim a.type) then " = None" else "") :=
  Parameter.text_hint argument h _

/-- The parameters in front of the declared arguments. -/
def leadingParameters (m : Module) (e : Endpoint) : List Parameter :=
  .self :: if (m.endpointAuth e).isSome then [.credentials] else []

theorem hint_eq_ok_iff (im : Imports) {reference h : String} :
    (∃ im', hint c reference im = .ok (h, im')) ↔ (c.convert reference).result = .ok h := by
  constructor
  · rintro ⟨im', done⟩
    obtain ⟨h', converted, same⟩ := map_eq_ok_iff.mp done
    cases same
    exact converted
  · intro converted
    exact ⟨_, map_eq_ok_iff.mpr ⟨h, converted, rfl⟩⟩

/-- An argument is shown exactly if its name does not collide and its reference converts. -/
theorem signatureArgument_eq_ok_iff (im : Imports) :
    (∃ im', signatureArgument c endpoint argument a im = .ok (text, im')) ↔
      collides argument = false ∧ ∃ h, (c.convert a.type).result = .ok h ∧
        text = (argumentParameter argument a h).text := by
  simp only [signatureArgument, text_argumentParameter]
  cases collides argument with
  | true => exact iff_of_false (fun ⟨_, failed⟩ => nomatch failed) fun both => nomatch both.1
  | false =>
      rw [if_neg Bool.false_ne_true, eq_self, true_and]
      constructor
      · rintro ⟨im', run⟩
        obtain ⟨⟨h, _⟩, hinted, shown⟩ := bind_eq_ok_iff.mp run
        cases shown
        exact ⟨h, (hint_eq_ok_iff im).mp ⟨_, labelled_eq_ok_iff.mp hinted⟩, rfl⟩
      · rintro ⟨h, converted, rfl⟩
        obtain ⟨middle, hinted⟩ := (hint_eq_ok_iff im).mpr converted
        exact ⟨middle, bind_eq_ok_iff.mpr ⟨_, labelled_eq_ok_iff.mpr hinted, rfl⟩⟩

theorem credentials_of_credentialParams {credentials : List String}
    (run : credentialParams m e im = .ok (credentials, im')) :
    credentials = if (m.endpointAuth e).isSome then ["auth: Credentials"] else [] := by
  unfold credentialParams at run
  split at run <;> rename_i needed
  all_goals
    cases run
    simp [needed]

/-- The texts in front of the declared arguments, and those of the arguments. -/
theorem exists_args_of_endpointMethod
    (run : endpointMethod c m isAsync endpoint e im = .ok (method, im')) :
    ∃ args, method.args = ["self"] ++
        (if (m.endpointAuth e).isSome then ["auth: Credentials"] else []) ++ args ∧
      List.Forall₂ (fun a text => ∃ im im', signatureArgument c endpoint a.1 a.2 im =
        .ok (text, im')) e.argumentList args := by
  unfold endpointMethod at run
  obtain ⟨⟨_, _⟩, -, run⟩ := bind_eq_ok_iff.mp run
  obtain ⟨⟨credentials, _⟩, needed, run⟩ := bind_eq_ok_iff.mp run
  obtain ⟨⟨args, _⟩, shown, run⟩ := bind_eq_ok_iff.mp run
  obtain ⟨⟨_, _⟩, -, run⟩ := bind_eq_ok_iff.mp run
  cases run
  exact ⟨args, by rw [credentials_of_credentialParams needed], Emit.forall₂_of_mapM shown⟩

/-! ## Defaults -/

/-- An argument is shown with its hint, and with a default exactly if its reference resolves to an
optional type. -/
def ShowsDefault (c : Converter String) (module : String) (a : String × Argument) (text : String) :
    Prop :=
  ∃ h r, (c.convert a.2.type).result = .ok h ∧
    ((TypeRef.converter c.project module).convert a.2.type).result = .ok r ∧
    text = a.1 ++ ": " ++ h ++ (if r.isOptional then " = None" else "")

theorem showsDefault_of_convert (standard : c.backend.templates.Standard) {h : String}
    (converted : (c.convert a.type).result = .ok h) (module : String) :
    ShowsDefault c module (argument, a) (argumentParameter argument a h).text := by
  obtain ⟨r, resolved, same, -⟩ := Converter.exists_typeRef standard rfl converted module
  refine ⟨h, r, converted, resolved, ?_⟩
  rw [text_argumentParameter, Bool.eq_iff_iff.mpr same]

/-- The test of the text of a reference agrees with its type. For every reference that converts, it
says whether the reference resolves to an optional type, which is the case if and only if it is one.
An argument with such a reference is shown unless its name collides. In every method of an endpoint
exactly the arguments of an optional type have a default. -/
theorem defaults_exact (p : Project) (current : String) (source : String → String)
    (module : String) :
    (∀ s h, ((converterOn current source p).convert s).result = .ok h →
      ∃ r, ((TypeRef.converter p module).convert s).result = .ok r ∧
        (hasStart "optional[" (trim s) = true ↔ r.isOptional = true) ∧
        (r.isOptional = true ↔ Datatype.NamesOptional s)) ∧
    (∀ endpoint argument a im, collides argument = false →
      Succeeds ((converterOn current source p).convert a.type).result →
        ∃ text im', signatureArgument (converterOn current source p) endpoint argument a im =
            .ok (text, im') ∧
          ShowsDefault (converterOn current source p) module (argument, a) text) ∧
    ∀ m isAsync endpoint e im im' method,
      endpointMethod (converterOn current source p) m isAsync endpoint e im =
          .ok (method, im') →
        ∃ args, method.args = ["self"] ++
            (if (m.endpointAuth e).isSome then ["auth: Credentials"] else []) ++ args ∧
          List.Forall₂ (ShowsDefault (converterOn current source p) module) e.argumentList
            args := by
  refine ⟨fun s h converted => ?_, fun endpoint argument a im free converts => ?_,
    fun m isAsync endpoint e im im' method run => ?_⟩
  · exact Converter.exists_typeRef standard_templates rfl converted module
  · obtain ⟨h, converted⟩ := converts
    obtain ⟨im', shown⟩ := (signatureArgument_eq_ok_iff im).mpr ⟨free, h, converted, rfl⟩
    exact ⟨_, im', shown, showsDefault_of_convert standard_templates converted module⟩
  · obtain ⟨args, all, each⟩ := exists_args_of_endpointMethod run
    refine ⟨args, all, each.imp fun a text ⟨im, shown⟩ => ?_⟩
    obtain ⟨-, h, converted, rfl⟩ := (signatureArgument_eq_ok_iff im).mp shown
    exact showsDefault_of_convert standard_templates converted module

theorem convert_page : ((converterOn "search" id .search).convert "optional[integer]").result =
    .ok "typing.Optional[int]" := by
  decide +kernel

theorem exists_method_search : ∃ method im', endpointMethod (converterOn "search" id .search)
      .search false "search" .search (.new "search") = .ok (method, im') ∧
    method.args = ["self", "text: str", "page: typing.Optional[int] = None"] := by
  have shown : (endpointMethod (converterOn "search" id .search) .search false "search" .search
      (.new "search")).toOption.map (·.1.args) =
        some ["self", "text: str", "page: typing.Optional[int] = None"] := by decide +kernel
  obtain ⟨⟨method, im'⟩, run, args⟩ := Option.map_eq_some_iff.mp shown
  exact ⟨method, im', toOption_eq_some_iff.mp run, args⟩

theorem defaults_exact_search :
    Datatype.NamesOptional "optional[integer]" ∧
    (∃ text im', signatureArgument (converterOn "search" id .search) "search" "page"
        ⟨"optional[integer]", none⟩ (.new "search") = .ok (text, im') ∧
      ShowsDefault (converterOn "search" id .search) "search"
        ("page", ⟨"optional[integer]", none⟩) text) ∧
    ∃ args, ["self", "text: str", "page: typing.Optional[int] = None"] = ["self"] ++ [] ++ args ∧
      List.Forall₂ (ShowsDefault (converterOn "search" id .search) "search")
        Endpoint.search.argumentList args := by
  obtain ⟨agrees, arguments, methods⟩ := defaults_exact .search "search" id "search"
  refine ⟨?_, ?_, ?_⟩
  · obtain ⟨r, -, start, optional⟩ := agrees _ _ convert_page
    exact optional.mp (start.mp (by decide))
  · exact arguments "search" "page" _ _ (by decide) ⟨_, convert_page⟩
  · obtain ⟨method, im', run, args⟩ := exists_method_search
    have each := methods .search false "search" .search _ im' method run
    rw [args] at each
    exact each

/-! ## Legal signatures -/

/-- The parameters of the method of an endpoint, with hints for its arguments. -/
def signature (m : Module) (e : Endpoint) (hints : List String) : List Parameter :=
  leadingParameters m e ++
    List.zipWith (fun a h => argumentParameter a.1 a.2 h) e.argumentList hints

/-- No name stands twice, and no parameter without a default stands behind one with a default. -/
structure IsLegal (parameters : List Parameter) : Prop where
  distinct : (parameters.map (·.name)).Nodup
  defaultsLast : parameters.Pairwise fun a b => a.hasDefault = true → b.hasDefault = true

theorem text_leadingParameters (m : Module) (e : Endpoint) :
    (leadingParameters m e).map Parameter.text =
      ["self"] ++ (if (m.endpointAuth e).isSome then ["auth: Credentials"] else []) := by
  unfold leadingParameters
  split <;> rfl

theorem name_leadingParameters (m : Module) (e : Endpoint) :
    (leadingParameters m e).map (·.name) =
      "self" :: (if (m.endpointAuth e).isSome then ["auth"] else []) := by
  unfold leadingParameters
  split <;> rfl

theorem leadingParameters_sublist (m : Module) (e : Endpoint) :
    (leadingParameters m e).Sublist [.self, .credentials] := by
  unfold leadingParameters
  split <;> simp

theorem hasDefault_of_mem_leadingParameters {q : Parameter} (mem : q ∈ leadingParameters m e) :
    q.hasDefault = false := by
  have none : ∀ q ∈ [Parameter.self, .credentials], q.hasDefault = false := by decide
  exact none q ((leadingParameters_sublist m e).subset mem)

/-- What can be told of an argument without its hint. -/
theorem map_signature {β : Type} {f : Parameter → β} {g : String × Argument → β}
    (each : ∀ a h, f (argumentParameter a.1 a.2 h) = g a) {hints : List String}
    (all : e.argumentList.length = hints.length) :
    (signature m e hints).map f = (leadingParameters m e).map f ++ e.argumentList.map g := by
  rw [signature, List.map_append, List.map_zipWith]
  simp only [each]
  calc _ = _ ++ ((e.argumentList.zip hints).map Prod.fst).map g := by
        rw [List.map_map, ← List.map_uncurry_zip_eq_zipWith]
        rfl
    _ = _ := by rw [List.map_fst_zip all.le]

theorem name_signature {hints : List String} (all : e.argumentList.length = hints.length) :
    (signature m e hints).map (·.name) =
      "self" :: (if (m.endpointAuth e).isSome then ["auth"] else []) ++
        e.argumentList.map (·.1) := by
  rw [map_signature (fun _ _ => rfl) all, name_leadingParameters]

/-- The names of the declared arguments are distinct, and none of them is one that the method needs
itself. -/
theorem nodup_name_signature {hints : List String}
    (all : e.argumentList.length = hints.length)
    (free : ∀ a ∈ e.argumentList, collides a.1 = false) :
    ((signature m e hints).map (·.name)).Nodup := by
  have own : ((leadingParameters m e).map (·.name)).Sublist ["self", "auth"] :=
    (leadingParameters_sublist m e).map _
  have taken : ∀ name ∈ ["self", "auth"], collides name = true := by decide
  rw [map_signature (fun _ _ => rfl) all, List.nodup_append]
  refine ⟨own.nodup (by decide), e.nodup_argumentList, fun name mem other inside same => ?_⟩
  obtain ⟨a, declared, rfl⟩ := List.mem_map.mp inside
  have collides := taken name (own.subset mem)
  rw [same, free a declared] at collides
  exact Bool.false_ne_true collides

/-- No default stands in front of the declared arguments. -/
theorem pairwise_signature_iff {hints : List String}
    (all : e.argumentList.length = hints.length) :
    ((signature m e hints).Pairwise fun a b => a.hasDefault = true → b.hasDefault = true) ↔
      e.argumentList.Pairwise fun a b =>
        hasStart "optional[" (trim a.2.type) = true →
          hasStart "optional[" (trim b.2.type) = true := by
  have defaults := map_signature (m := m) (f := Parameter.hasDefault)
    (g := fun a => hasStart "optional[" (trim a.2.type))
    (fun _ _ => by dsimp only [argumentParameter]) all
  have leading : ∀ d ∈ (leadingParameters m e).map Parameter.hasDefault,
      ∀ other : Bool, d = true → other = true := by
    intro d mem other given
    obtain ⟨q, inside, rfl⟩ := List.mem_map.mp mem
    exact absurd ((hasDefault_of_mem_leadingParameters inside).symm.trans given) Bool.false_ne_true
  have mapped : ((signature m e hints).map Parameter.hasDefault).Pairwise
        (fun a b => a = true → b = true) ↔
      (signature m e hints).Pairwise fun a b => a.hasDefault = true → b.hasDefault = true :=
    List.pairwise_map
  rw [← mapped, defaults, List.pairwise_append, List.pairwise_map (l := e.argumentList)]
  exact ⟨fun both => both.2.1, fun declared =>
    ⟨List.pairwise_of_forall_mem_list fun d mem other _ => leading d mem other, declared,
      fun d mem other _ => leading d mem other⟩⟩

/-- The texts of arguments that are shown are those of their parameters, with the hints that their
references convert to. -/
theorem exists_hints_of_forall₂ {arguments : List (String × Argument)} {args : List String}
    (each : List.Forall₂ (fun a text => ∃ im im', signatureArgument c endpoint a.1 a.2 im =
      .ok (text, im')) arguments args) :
    ∃ hints, List.Forall₂ (fun a h => collides a.1 = false ∧ (c.convert a.2.type).result = .ok h)
        arguments hints ∧
      args = (List.zipWith (fun a h => argumentParameter a.1 a.2 h) arguments hints).map
        Parameter.text := by
  induction each with
  | nil => exact ⟨[], .nil, rfl⟩
  | cons shown _ ih =>
      obtain ⟨im, shown⟩ := shown
      obtain ⟨free, h, converted, rfl⟩ := (signatureArgument_eq_ok_iff im).mp shown
      obtain ⟨hints, others, rfl⟩ := ih
      exact ⟨h :: hints, .cons ⟨free, converted⟩ others, rfl⟩

/-- The texts of a signature are those of its parameters. -/
theorem exists_hints_of_endpointMethod
    (run : endpointMethod c m isAsync endpoint e im = .ok (method, im')) :
    ∃ hints, List.Forall₂ (fun a h => collides a.1 = false ∧ (c.convert a.2.type).result = .ok h)
        e.argumentList hints ∧
      method.args = (signature m e hints).map Parameter.text := by
  obtain ⟨args, all, each⟩ := exists_args_of_endpointMethod run
  obtain ⟨hints, converted, rfl⟩ := exists_hints_of_forall₂ each
  exact ⟨hints, converted, by rw [all, signature, List.map_append, text_leadingParameters]⟩

/-- The signature of a method that is generated: its object, the credentials if the endpoint needs
them, and the declared arguments in their order. No name stands twice. It is legal exactly if no
argument whose type is not optional is declared behind one whose type is. -/
theorem signature_exact {p : Project} {current : String} {source : String → String} {m : Module}
    {isAsync : Bool} {endpoint : String} {e : Endpoint} {im im' : Imports} {method : Method}
    (run : endpointMethod (converterOn current source p) m isAsync endpoint e im =
      .ok (method, im')) :
    ∃ hints, List.Forall₂ (fun a h => ((converterOn current source p).convert a.2.type).result =
        .ok h) e.argumentList hints ∧
      method.args = (signature m e hints).map Parameter.text ∧
      (signature m e hints).map (·.name) =
        "self" :: (if (m.endpointAuth e).isSome then ["auth"] else []) ++
          e.argumentList.map (·.1) ∧
      ((signature m e hints).map (·.name)).Nodup ∧
      (IsLegal (signature m e hints) ↔ e.argumentList.Pairwise fun a b =>
        Datatype.NamesOptional a.2.type → Datatype.NamesOptional b.2.type) := by
  obtain ⟨hints, each, args⟩ := exists_hints_of_endpointMethod run
  have all := each.length_eq
  have entry := (mem_of_forall₂ each).1
  have distinct : ((signature m e hints).map (·.name)).Nodup := by
    refine nodup_name_signature all fun a mem => ?_
    obtain ⟨h, -, free, -⟩ := entry a mem
    exact free
  have same {a : String × Argument} (mem : a ∈ e.argumentList) :
      hasStart "optional[" (trim a.2.type) = true ↔ Datatype.NamesOptional a.2.type := by
    obtain ⟨h, -, -, converted⟩ := entry a mem
    obtain ⟨r, -, start, optional⟩ := Converter.exists_typeRef standard_templates rfl converted ""
    exact start.trans optional
  refine ⟨hints, each.imp fun _ _ both => both.2, args, name_signature all, distinct, ?_⟩
  have legal : IsLegal (signature m e hints) ↔ _ :=
    ⟨fun legal => legal.defaultsLast, fun last => ⟨distinct, last⟩⟩
  rw [legal, pairwise_signature_iff all]
  exact List.Pairwise.iff_of_mem fun mem mem' => imp_congr (same mem) (same mem')

theorem signature_exact_search :
    ∃ hints, ["self", "text: str", "page: typing.Optional[int] = None"] =
        (signature .search .search hints).map Parameter.text ∧
      IsLegal (signature .search .search hints) := by
  obtain ⟨method, im', run, args⟩ := exists_method_search
  obtain ⟨hints, -, texts, -, -, legal⟩ := signature_exact run
  obtain ⟨r, -, start, optional⟩ := Converter.exists_typeRef standard_templates rfl convert_page ""
  exact ⟨hints, args.symm.trans texts,
    legal.mpr (List.pairwise_pair.mpr fun _ => optional.mp (start.mp (by decide)))⟩

/-- A required argument behind an optional one: the module is valid and the method is generated, but
its parameter without a default stands behind one with a default. -/
theorem browse_not_legal :
    Succeeds Module.search.validate ∧
    (∃ method im', endpointMethod (converterOn "search" id .search) .search false "browse" .browse
        (.new "search") = .ok (method, im') ∧
      method.args = ["self", "page: typing.Optional[int] = None", "text: str"]) ∧
    ∀ hints, Endpoint.browse.argumentList.length = hints.length →
      ¬IsLegal (signature .search .browse hints) := by
  refine ⟨by decide +kernel, ?_, fun hints all legal => ?_⟩
  · have shown : (endpointMethod (converterOn "search" id .search) .search false "browse" .browse
        (.new "search")).toOption.map (·.1.args) =
          some ["self", "page: typing.Optional[int] = None", "text: str"] := by decide +kernel
    obtain ⟨⟨method, im'⟩, run, args⟩ := Option.map_eq_some_iff.mp shown
    exact ⟨method, im', toOption_eq_some_iff.mp run, args⟩
  · have last := (pairwise_signature_iff all).mp legal.defaultsLast
    exact absurd last (by decide)

end Python

end ApiCompiler
