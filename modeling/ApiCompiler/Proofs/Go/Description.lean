import ApiCompiler.Proofs.Convert.Agreement
import ApiCompiler.Proofs.Convert.Substitution
import ApiCompiler.Proofs.Describe.Build
import ApiCompiler.Proofs.Go.Builder

/-!
# The emitted description

The function that is emitted for a service calls a builder once for everything that the
description of the module says. Executed, it returns that description.
-/

namespace ApiCompiler.Go

open Fallible Script Text

/-! ## Types -/

/-- Places for parameters, each behind a comma. -/
def slots : Nat → List Char
  | 0 => []
  | n + 1 => ',' :: ' ' :: Templates.placeholder :: slots n

/-- Every template calls one function with the name of the type and its parameters. -/
theorem refTemplates_shape : ∀ e ∈ refTemplates.entries,
    e.2.toList = ("describe.Builtin(".toList ++ (quote e.1).toList) ++
      (slots (Templates.arityOf e.2) ++ [')']) ∧
    Templates.placeholder ∉ "describe.Builtin(".toList ++ (quote e.1).toList := by
  decide +kernel

theorem fill_slots (xs : List String) (rest : List Char) :
    Templates.fill (slots xs.length ++ rest) xs =
      (xs.flatMap fun x => ',' :: ' ' :: x.toList) ++ rest := by
  induction xs with
  | nil => exact Templates.fill_nil rest
  | cons x xs ih =>
      have blanks : Templates.placeholder ∉ [',', ' '] := by decide
      change Templates.fill ([',', ' '] ++ Templates.placeholder :: (slots xs.length ++ rest)) _ = _
      rw [Templates.fill_plain blanks, Templates.fill, if_pos rfl, ih]
      simp

theorem argumentText_cons (text : String) (xs : List String) :
    argumentText (text :: xs) = text.toList ++ xs.flatMap fun x => ',' :: ' ' :: x.toList := by
  induction xs generalizing text with
  | nil => simp [argumentText]
  | cons x xs ih =>
      rw [argumentText, ih, List.flatMap_cons]
      rfl

theorem toList_substitute {name template : String} (found : refTemplates.get? name = some template)
    {xs : List String} (length : xs.length = Templates.arityOf template) :
    (Templates.substitute template xs).toList = callText "describe.Builtin" (quote name :: xs) := by
  obtain ⟨e, first, rfl⟩ := Option.map_eq_some_iff.mp found
  obtain rfl : e.1 = name := by simpa using List.find?_some first
  obtain ⟨shape, plain⟩ := refTemplates_shape e (List.mem_of_find?_eq_some first)
  rw [Templates.substitute, String.toList_ofList, shape, Templates.fill_plain plain, ← length,
    fill_slots, callText, argumentText_cons]
  simp

theorem mapM_type? (ts : List TypeRef) : (ts.map Value.type).mapM Value.type? = some ts := by
  induction ts with
  | nil => rfl
  | cons t ts ih =>
      rw [List.map_cons, List.mapM_cons, ih]
      rfl

theorem construct_builtin (name : String) (ts : List TypeRef) :
    construct "describe" "Builtin" (.text name :: ts.map Value.type) =
      some (.type (.builtin name ts)) := by
  rw [construct, mapM_type?, Option.map_some]

/-- The expression of a type is evaluated to the type. -/
theorem agree_refBackend :
    refBackend.Agree (fun text t => Denotes text (.type t)) TypeRef.backend where
  standard := standard_refTemplates
  standard' := TypeRef.standard_templates
  render {name template _ xs ts} found _ length params := by
    have args : List.Forall₂ Denotes (quote name :: xs) (.text name :: ts.map Value.type) :=
      .cons (denotes_quote name) (List.forall₂_map_right_iff.mpr params)
    exact denotes_call "describe.Builtin" (denotes_member "describe" "Builtin" rfl rfl) args
      (toList_substitute found length) fun s =>
        congrArg (Option.map fun v => (v, s)) (construct_builtin name ts)
  reference loc := by
    refine denotes_call "describe.Ref" (denotes_member "describe" "Ref" rfl rfl)
      (.cons (denotes_quote loc.moduleName) (.cons (denotes_quote loc.typeName) .nil)) ?_
      fun s => rfl
    simp [refBackend, callText, argumentText]

theorem denotes_of_convert {p : Project} {current reference text : String} {t : TypeRef}
    (emitted : (Converter.convert ⟨p, current, refBackend, id⟩ reference).result = .ok text)
    (converted : ((TypeRef.converter p current).convert reference).result = .ok t) :
    Denotes text (.type t) :=
  Converter.convert_related agree_refBackend emitted converted

/-! ## Calls that change an endpoint -/

theorem changes_docs (docs : String) :
    Changes ("Docs(" ++ quote docs ++ ")") fun d => { d with docs := docs } :=
  changes_call "Docs" rfl (.cons (denotes_quote docs) .nil) (by simp [callText, argumentText]) rfl

theorem changes_auth {a : Auth} (valid : a.IsValid) :
    Changes ("Auth(" ++ authExpression a ++ ")") (·.addAuth a) :=
  changes_call "Auth" rfl (.cons (denotes_authExpression valid) .nil)
    (by simp [callText, argumentText]) rfl

theorem changes_argument (name : String) {ref : String} {t : TypeRef}
    (type : Denotes ref (.type t)) {k : ParamKind}
    (known : k = .auth ∨ k ∈ Endpoint.declarableKinds) :
    Changes ("Arg(" ++ quote name ++ ", " ++ ref ++ ", " ++ kindConstant k ++ ")")
      (·.addArg ⟨name, some k, t, "", none⟩) :=
  changes_call "Arg" rfl
    (.cons (denotes_quote name) (.cons type (.cons (denotes_kindConstant known) .nil)))
    (by simp [callText, argumentText]) rfl

theorem changes_credentials :
    Changes "Arg(\"auth\", describe.Credentials, cytonic.KindAuth)"
      (·.addArg ⟨credentialsArgument, some .auth, .credentials, "", none⟩) := by
  have written : "Arg(\"auth\", describe.Credentials, cytonic.KindAuth)".toList =
      callText "Arg" [quote credentialsArgument, "describe.Credentials", "cytonic.KindAuth"] := by
    decide
  exact changes_call "Arg" rfl (.cons (denotes_quote credentialsArgument)
    (.cons (denotes_member "describe" "Credentials" rfl rfl)
      (.cons (denotes_member "cytonic" "KindAuth" rfl rfl) .nil))) written rfl

theorem changes_returns {ref : String} {t : TypeRef} (type : Denotes ref (.type t)) :
    Changes ("Returns(" ++ ref ++ ")") fun d => { d with result := some t } :=
  changes_call "Returns" rfl (.cons type .nil) (by simp [callText, argumentText]) rfl

/-! ## The calls of an endpoint -/

section

variable {s : Scope} {im im' : Imports}

theorem ref_of_within {label reference ref : String}
    (emitted : ((s.ref reference).within label) im = .ok (ref, im')) :
    (Converter.convert ⟨s.project, s.name, refBackend, id⟩ reference).result = .ok ref :=
  Emit.of_ofExcept (labelled_eq_ok_iff.mp emitted)

theorem changes_argumentCall {endpoint call : String} {r : ResolvedArgument}
    {d : ArgumentDescription} (emitted : argumentCall s endpoint r im = .ok (call, im'))
    (described : ServiceDraft.Describes (TypeRef.converter s.project s.name) r.declaration d)
    (known : r.kind ∈ Endpoint.declarableKinds) : Changes call (·.addArg d) := by
  obtain ⟨⟨ref, middle⟩, converted, written⟩ := bind_eq_ok_iff.mp emitted
  obtain ⟨-, t, resolved, rfl⟩ := described
  cases written
  exact changes_argument r.name (denotes_of_convert (ref_of_within converted) resolved) (.inr known)

theorem changes_argumentCalls {endpoint : String} {out : List ResolvedArgument}
    {calls : List String}
    (emitted : List.Forall₂ (fun r call => ∃ im im', argumentCall s endpoint r im =
      .ok (call, im')) out calls)
    {args : List ArgumentDescription}
    (described : List.Forall₂ (ServiceDraft.Describes (TypeRef.converter s.project s.name))
      (out.map ResolvedArgument.declaration) args)
    (known : ∀ r ∈ out, r.kind ∈ Endpoint.declarableKinds) :
    List.Forall₂ Changes calls (args.map fun a d => d.addArg a) := by
  induction emitted generalizing args with
  | nil =>
      cases described
      exact .nil
  | cons first _ ih =>
      obtain ⟨im, im', first⟩ := first
      rw [List.map_cons] at described
      cases described with
      | cons head tail =>
          rw [List.forall_mem_cons] at known
          exact .cons (changes_argumentCall first head known.1) (ih tail known.2)

theorem changes_resultCalls {name : String} {e : Endpoint} {calls : List String}
    (emitted : resultCalls s name e im = .ok (calls, im')) {result : Option TypeRef}
    (described : ServiceDraft.describeResult (TypeRef.converter s.project s.name) name e =
      .ok result) :
    List.Forall₂ Changes calls (result.toList.map fun t d => { d with result := some t }) := by
  rw [resultCalls] at emitted
  rw [ServiceDraft.describeResult] at described
  by_cases empty : (e.result == "") = true
  · rw [if_pos empty] at emitted described
    cases emitted
    cases described
    exact .nil
  · rw [if_neg empty] at emitted described
    obtain ⟨⟨ref, middle⟩, converted, written⟩ := bind_eq_ok_iff.mp emitted
    obtain ⟨t, resolved, rfl⟩ := map_eq_ok_iff.mp described
    cases written
    exact .cons (changes_returns (denotes_of_convert (ref_of_within converted)
      (labelled_eq_ok_iff.mp resolved))) .nil

end

theorem changes_credentialCalls (m : Module) (e : Endpoint) :
    List.Forall₂ Changes (credentialCalls m e)
      ((ServiceDraft.credentialArguments m e).map fun a d => d.addArg a) := by
  rw [credentialCalls, ServiceDraft.credentialArguments]
  split
  · exact .cons changes_credentials .nil
  · exact .nil

/-- The changes that make the draft of an endpoint. -/
def endpointChanges (m : Module) (e : Endpoint) (args : List ArgumentDescription)
    (result : Option TypeRef) : List (EndpointDraft → EndpointDraft) :=
  (if e.docs == "" then [] else [fun d => { d with docs := e.docs }]) ++
    e.auth.toList.map (fun a d => d.addAuth a) ++
    (ServiceDraft.credentialArguments m e).map (fun a d => d.addArg a) ++
    args.map (fun a d => d.addArg a) ++
    result.toList.map fun t d => { d with result := some t }

theorem foldl_addArg (args : List ArgumentDescription) (d : EndpointDraft) :
    (args.map fun a (d : EndpointDraft) => d.addArg a).foldl (fun d change => change d) d =
      { d with args := d.args ++ args } := by
  induction args generalizing d with
  | nil => simp
  | cons a args ih =>
      rw [List.map_cons, List.foldl_cons, ih]
      simp [EndpointDraft.addArg]

theorem foldl_addAuth (auth : List Auth) (d : EndpointDraft) :
    (auth.map fun a (d : EndpointDraft) => d.addAuth a).foldl (fun d change => change d) d =
      { d with auth := d.auth ++ auth } := by
  induction auth generalizing d with
  | nil => simp
  | cons a auth ih =>
      rw [List.map_cons, List.foldl_cons, ih]
      simp [EndpointDraft.addAuth]

theorem foldl_endpointChanges (m : Module) (name : String) (e : Endpoint)
    (args : List ArgumentDescription) (result : Option TypeRef) :
    (endpointChanges m e args result).foldl (fun d change => change d)
      (.new name e.route.render) = ServiceDraft.endpointDraft m name e args result := by
  have docs : (if e.docs == "" then []
      else [fun d : EndpointDraft => { d with docs := e.docs }]).foldl (fun d change => change d)
        (.new name e.route.render) = ⟨name, e.route.render, [], none, [], e.docs⟩ := by
    by_cases empty : e.docs = ""
    · simp [empty, EndpointDraft.new]
    · simp [empty, EndpointDraft.new]
  simp only [endpointChanges, List.foldl_append, foldl_addArg, foldl_addAuth, docs]
  cases result with
  | none => rfl
  | some t => rfl

/-- A call gives the documentation if it is a text. -/
theorem changes_docsCalls {docs : RawText} (isText : docs.isText = true) :
    List.Forall₂ Changes (if docs == "" then [] else ["Docs(" ++ quote docs ++ ")"])
      (if docs == "" then [] else [fun d => { d with docs := docs }]) := by
  split
  · exact .nil
  · rw [RawText.isText_iff.mp isText]
    exact .cons (changes_docs docs) .nil

theorem changes_authCalls {auth : Option Auth} (valid : ∀ a, auth = some a → a.IsValid) :
    List.Forall₂ Changes (auth.toList.map fun a => "Auth(" ++ authExpression a ++ ")")
      (auth.toList.map fun a d => d.addAuth a) := by
  cases auth with
  | none => exact .nil
  | some a => exact .cons (changes_auth (valid a rfl)) .nil

/-- The calls of an endpoint add its draft, with the kinds that its arguments are given. -/
theorem effects_endpointCalls (s : Scope) {e : String × Endpoint} (valid : e.2.IsValid)
    (routed : ∃ text, Route.parse text = .ok e.2.route) (isText : e.2.docs.isText = true)
    {im im' : Imports} {lines : List BodyLine}
    (emitted : endpointCalls s e.1 e.2 im = .ok (lines, im')) {draft : EndpointDraft}
    (described : ServiceDraft.describeEndpoint (TypeRef.converter s.project s.name) s.module
      e.1 e.2 = .ok draft) :
    ∃ d, ServiceDraft.Drafts (TypeRef.converter s.project s.name) s.module e d ∧
      ∀ service, Effects lines service (service.addEndpoint d) := by
  obtain ⟨⟨out, _⟩, settled, rest⟩ := bind_eq_ok_iff.mp emitted
  obtain ⟨⟨argumentCalls, _⟩, arguments, rest⟩ := bind_eq_ok_iff.mp rest
  obtain ⟨⟨resultCalls, _⟩, results, written⟩ := bind_eq_ok_iff.mp rest
  have resolved : e.2.resolveArguments = .ok out :=
    labelled_eq_ok_iff.mp (Emit.of_ofExcept settled)
  obtain ⟨_, -, out', args, result, resolved', described, returned, -⟩ :=
    ServiceDraft.build_of_describeEndpoint valid routed described
  cases resolved.symm.trans resolved'
  have known : ∀ r ∈ out, r.kind ∈ Endpoint.declarableKinds := by
    obtain ⟨-, -, rfl⟩ := Endpoint.resolve_eq_ok_iff.mp resolved
    exact fun r => Endpoint.kind_mem_of_mem_ruled valid.kinds
  refine ⟨ServiceDraft.endpointDraft s.module e.1 e.2 args result,
    ⟨rfl, ServiceDraft.build_of_resolved valid routed resolved described returned⟩,
    fun service => ?_⟩
  have changes := List.rel_append (List.rel_append (List.rel_append (List.rel_append
    (changes_docsCalls isText) (changes_authCalls valid.auth))
    (changes_credentialCalls s.module e.2))
    (changes_argumentCalls (Emit.forall₂_of_mapM arguments) described known))
    (changes_resultCalls results returned)
  cases written
  rw [← foldl_endpointChanges]
  exact effects_endpoint e.1 e.2.route.render changes service

/-! ## The whole service -/

/-- The endpoints of a service are added one after the other. -/
theorem effects_endpoints {c : Converter TypeRef} {m : Module}
    {endpoints : List (String × Endpoint)} {groups : List (List BodyLine)}
    (each : List.Forall₂ (fun e lines => ∃ d, ServiceDraft.Drafts c m e d ∧
      ∀ service, Effects lines service (service.addEndpoint d)) endpoints groups)
    (service : ServiceDraft) :
    ∃ drafts, List.Forall₂ (ServiceDraft.Drafts c m) endpoints drafts ∧
      Effects groups.flatten service
        { service with endpoints := service.endpoints ++ drafts } := by
  induction each generalizing service with
  | nil =>
      refine ⟨[], .nil, ?_⟩
      rw [List.append_nil]
      exact .nil service
  | cons first _ ih =>
      obtain ⟨d, drafted, effects⟩ := first
      obtain ⟨drafts, more, others⟩ := ih (service.addEndpoint d)
      refine ⟨d :: drafts, .cons drafted more, ?_⟩
      have all := (effects service).append others
      rw [ServiceDraft.addEndpoint, List.append_assoc] at all
      exact all

/-- The calls that follow the first one give the service its documentation and its
authentication. -/
theorem effects_serviceCalls {m : Module} (valid : ∀ a, m.auth = some a → a.IsValid)
    (isText : m.docs.isText = true) :
    Effects (((if m.docs == "" then [] else ["b.Docs(" ++ quote m.docs ++ ")"]) ++
      m.auth.toList.map fun a => "b.Auth(" ++ authExpression a ++ ")").map (⟨0, ·⟩))
      (.new m.name) (ServiceDraft.start m) := by
  have docs : Effects ((if m.docs == "" then [] else ["b.Docs(" ++ quote m.docs ++ ")"]).map
      (⟨0, ·⟩)) (.new m.name) { ServiceDraft.new m.name with docs := m.docs } := by
    by_cases empty : m.docs = ""
    · rw [if_pos (beq_iff_eq.mpr empty), empty]
      exact .nil _
    · rw [if_neg (empty ∘ beq_iff_eq.mp), RawText.isText_iff.mp isText]
      exact effects_call "Docs" rfl (.cons (denotes_quote m.docs) .nil)
        (by simp [callText, argumentText]) rfl
  rw [List.map_append]
  refine docs.append ?_
  rw [ServiceDraft.start]
  cases declared : m.auth with
  | none => exact .nil _
  | some a =>
      exact effects_call "Auth" rfl (.cons (denotes_authExpression (valid a declared)) .nil)
        (by simp [callText, argumentText]) rfl

/-- The declarations of a module with endpoints end with the function that describes its
service. -/
theorem exists_serviceDescription {s : Scope} (served : s.module.endpointList ≠ [])
    {im im' : Imports} {declarations : List Declaration}
    (emitted : moduleDeclarations s im = .ok (declarations, im')) :
    ∃ description, declarations.getLast? = some description ∧
      ∃ im im', serviceDescription s im = .ok (description, im') := by
  obtain ⟨⟨types, _⟩, -, rest⟩ := bind_eq_ok_iff.mp emitted
  obtain ⟨⟨errors, _⟩, -, rest⟩ := bind_eq_ok_iff.mp rest
  obtain ⟨⟨service, _⟩, written, all⟩ := bind_eq_ok_iff.mp rest
  rw [serviceDeclarations, if_neg fun empty => served (Module.endpointList_eq_nil empty)] at written
  obtain ⟨⟨interface, _⟩, -, rest⟩ := bind_eq_ok_iff.mp written
  obtain ⟨⟨description, _⟩, described, pair⟩ := bind_eq_ok_iff.mp rest
  cases pair
  cases all
  exact ⟨description, by simp, _, _, described⟩

/-- The lines of the function: the calls for the service, those for its endpoints, and the
last one. -/
theorem serviceDescription_eq_ok {s : Scope} {im im' : Imports} {declaration : Declaration}
    (emitted : serviceDescription s im = .ok (declaration, im')) :
    ∃ groups docs before after,
      (s.module.endpointList.mapM fun e => endpointCalls s e.1 e.2) before = .ok (groups, after) ∧
      declaration = .function docs
        (serviceName s.module ++ "Description" ++ "() (*describe.ServiceDescription, error)")
        ((serviceCalls s.module).map (⟨0, ·⟩) ++ groups.flatten ++ [⟨0, "return b.Build()"⟩]) := by
  obtain ⟨⟨groups, after⟩, calls, written⟩ := bind_eq_ok_iff.mp emitted
  cases written
  exact ⟨groups, _, _, _, calls, rfl⟩

theorem effects_emitted {p : Project} (checked : p.IsChecked) {name : String} {m : Module}
    (found : p.module? name = some m) (texts : ∀ d ∈ m.documentation, d.isText = true)
    {draft : ServiceDraft} (drafted : ServiceDraft.ofModule p name = .ok draft) {base : String}
    {im im' : Imports} {groups : List (List BodyLine)}
    (emitted : (m.endpointList.mapM fun e => endpointCalls ⟨p, name, m, base⟩ e.1 e.2) im =
      .ok (groups, im')) (service : ServiceDraft) :
    ∃ drafts, List.Forall₂ (ServiceDraft.Drafts (TypeRef.converter p name) m) m.endpointList
        drafts ∧
      Effects groups.flatten service
        { service with endpoints := service.endpoints ++ drafts } := by
  have mem := Project.module?_eq_some_iff.mp found
  obtain ⟨m', found', drafts, described, -⟩ := ServiceDraft.ofModule_eq_ok_iff.mp drafted
  cases found.symm.trans found'
  have each : ∀ e ∈ m.endpointList,
      Succeeds (ServiceDraft.describeEndpoint (TypeRef.converter p name) m e.1 e.2) :=
    succeeds_mapM_iff.mp ⟨drafts, mapM_eq_ok_iff.mpr described⟩
  have calls : List.Forall₂ (fun e lines => e ∈ m.endpointList ∧ ∃ im im',
      endpointCalls ⟨p, name, m, base⟩ e.1 e.2 im = .ok (lines, im')) m.endpointList groups :=
    (List.forall₂_and_left _ _).mpr ⟨fun _ => id, Emit.forall₂_of_mapM emitted⟩
  have adds : List.Forall₂ (fun e lines => ∃ d,
      ServiceDraft.Drafts (TypeRef.converter p name) m e d ∧
        ∀ service, Effects lines service (service.addEndpoint d)) m.endpointList groups := by
    refine calls.imp ?_
    rintro e lines ⟨inside, _, _, written⟩
    obtain ⟨d, describes⟩ := each e inside
    exact effects_endpointCalls ⟨p, name, m, base⟩ ((checked.isValid mem).endpoints e inside)
      (checked.routes _ mem e inside) (texts _ (Module.docs_mem_documentation inside)) written
      describes
  exact effects_endpoints adds service

/-- If a module of a checked project has endpoints, its service is described, and its source
file is rendered, then the file ends with a function that returns the description of the
service: executed as it is emitted, it builds a service with the same name, documentation and
authentication, and with the same endpoints in order. -/
theorem describe_exact {p : Project} (checked : p.IsChecked) {name : String} {m : Module}
    (found : p.module? name = some m) (served : m.endpointList ≠ [])
    {service : ServiceDescription} (described : ServiceDescription.ofModule p name = .ok service)
    {settings : Settings} {file : SourceFile}
    (rendered : sourceFile p name settings = .ok file) :
    ∃ docs body, file.declarations.getLast? = some (.function docs
        (serviceName m ++ "Description" ++ "() (*describe.ServiceDescription, error)") body) ∧
      Script.describe body = some (.ok service) := by
  obtain ⟨_, looked, rest⟩ := bind_eq_ok_iff.mp rendered
  cases found.symm.trans (Project.getModule_eq_ok_iff.mp looked)
  obtain ⟨⟨declarations, _⟩, emitted, written⟩ := bind_eq_ok_iff.mp rest
  obtain ⟨texts, rfl⟩ := SourceFile.checkComments_eq_ok_iff.mp written
  obtain ⟨description, last, _, _, function⟩ := exists_serviceDescription served emitted
  obtain ⟨groups, docs, _, _, calls, rfl⟩ := serviceDescription_eq_ok function
  refine ⟨docs, _, last, ?_⟩
  obtain ⟨draft, drafted, built⟩ := bind_eq_ok_iff.mp described
  obtain ⟨drafts, each, effects⟩ :=
    effects_emitted checked found texts drafted calls (ServiceDraft.start m)
  have valid := checked.isValid (Project.module?_eq_some_iff.mp found)
  have executed := describe_of_effects
    ((effects_serviceCalls valid.auth (texts _ List.mem_cons_self)).append effects)
  -- Both drafts are built, and a module has only one description.
  obtain ⟨descriptions, completed, same⟩ := ServiceDraft.build_of_drafts each
  obtain ⟨_, descriptions', again, completed', same'⟩ :=
    ServiceDraft.build_of_ofModule checked drafted
  cases found.symm.trans again
  have unique : descriptions = descriptions' :=
    List.right_unique_forall₂' (ServiceDraft.rightUnique_completes _ _) completed completed'
  rw [unique, ← same', built] at same
  rw [ServiceDraft.start_eq, List.nil_append, same] at executed
  rw [← executed]
  simp [serviceCalls]

/-- The hypotheses hold of a service whose endpoints require authentication, replace it and
switch it off. -/
theorem describe_exact_todo :
    ∃ service file, ServiceDescription.ofModule .todo "todo" = .ok service ∧
      sourceFile .todo "todo" ⟨"example.com/api"⟩ = .ok file ∧
      ∃ docs body, file.declarations.getLast? = some (.function docs
          "TodoServiceDescription() (*describe.ServiceDescription, error)" body) ∧
        Script.describe body = some (.ok service) := by
  have described : Succeeds (ServiceDescription.ofModule .todo "todo") := by decide +kernel
  have rendered : Succeeds (sourceFile .todo "todo" ⟨"example.com/api"⟩) := by decide +kernel
  obtain ⟨service, described⟩ := described
  obtain ⟨file, rendered⟩ := rendered
  have served : Module.todo.endpointList ≠ [] := List.cons_ne_nil _ _
  exact ⟨service, file, described, rendered,
    describe_exact Project.isChecked_todo rfl served described rendered⟩

end ApiCompiler.Go
