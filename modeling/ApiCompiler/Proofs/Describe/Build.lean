import ApiCompiler.Proofs.Describe.Faults
import ApiCompiler.Proofs.Describe.Footprint
import ApiCompiler.Proofs.Module.Valid
import ApiCompiler.Proofs.Project.Lookup

/-!
# Building a checked service

A draft of a checked module passes every check of `ServiceDraft.build`: the routes are
read from their own texts, no name stands twice, kinds resolve as they did in the
module, and an endpoint that needs credentials has them as its first argument.
-/

namespace ApiCompiler

open Fallible

/-! ## Checks -/

namespace EndpointDraft

/-- A draft that passes every check: behind the credentials, if there are any, stand
arguments of other names and kinds, no two of one name. -/
structure IsSound (e : EndpointDraft) (service : List Auth) (route : Route)
    (credentials others : List ArgumentDescription) : Prop where
  read : Route.parse e.http = .ok route
  args : e.args = credentials ++ others
  isCredentials : credentials = [] ∨
    credentials = [⟨credentialsArgument, some .auth, .credentials, "", none⟩]
  isPlain : ∀ a ∈ others, a.name ≠ credentialsArgument ∧ a.kind ≠ some .auth
  distinct : (others.map (·.name)).Nodup
  present : (e.effectiveAuth service).any Auth.isRequired = true → credentials ≠ []

namespace IsSound

variable {e : EndpointDraft} {service : List Auth} {route : Route}
variable {credentials others : List ArgumentDescription}

theorem credentials_name (sound : e.IsSound service route credentials others)
    {a : ArgumentDescription} (mem : a ∈ credentials) : a.name = credentialsArgument := by
  rcases sound.isCredentials with none | one
  · rw [none] at mem
    exact nomatch mem
  · rw [one, List.mem_singleton] at mem
    rw [mem]

theorem distinct_args (sound : e.IsSound service route credentials others) :
    (e.args.map (·.name)).Nodup := by
  rw [sound.args, List.map_append, List.nodup_append]
  refine ⟨?_, sound.distinct, ?_⟩
  · rcases sound.isCredentials with none | one
    · rw [none]
      exact List.nodup_nil
    · rw [one]
      exact List.pairwise_singleton _ _
  · intro a first b second same
    obtain ⟨c, mem, rfl⟩ := List.mem_map.mp first
    obtain ⟨o, inside, rfl⟩ := List.mem_map.mp second
    exact (sound.isPlain o inside).1 (same.symm.trans (sound.credentials_name mem))

theorem not_isForeign (sound : e.IsSound service route credentials others) :
    ∀ a ∈ e.args, ¬a.IsForeign := by
  rw [sound.args]
  intro a mem claims
  rcases List.mem_append.mp mem with mem | mem
  · exact claims.1 (sound.credentials_name mem)
  · exact (sound.isPlain a mem).2 claims.2

theorem isCovered (sound : e.IsSound service route credentials others) :
    ¬(e.RequiresCredentials service ∧ credentialsArgument ∉ e.args.map (·.name)) := by
  rintro ⟨required, missing⟩
  have present := sound.present (requiresCredentials_iff.mpr required)
  obtain ⟨c, rest, first⟩ := List.exists_cons_of_ne_nil present
  have mem : c ∈ credentials := first ▸ List.mem_cons_self
  refine missing (List.mem_map.mpr ⟨c, ?_, sound.credentials_name mem⟩)
  rw [sound.args]
  exact List.mem_append_left _ mem

theorem others_eq (sound : e.IsSound service route credentials others) : e.others = others := by
  have front : credentials.filter (·.name != credentialsArgument) = [] :=
    List.filter_eq_nil_iff.mpr fun a mem => by simp [sound.credentials_name mem]
  have back : others.filter (·.name != credentialsArgument) = others :=
    List.filter_eq_self.mpr fun a mem => by simp [(sound.isPlain a mem).1]
  rw [EndpointDraft.others, sound.args, List.filter_append, front, back, List.nil_append]

theorem credentials_eq (sound : e.IsSound service route credentials others) :
    e.credentials = credentials := by
  have back : others.filter (·.name == credentialsArgument) = [] :=
    List.filter_eq_nil_iff.mpr fun a mem => by simp [(sound.isPlain a mem).1]
  rw [EndpointDraft.credentials, sound.args, List.filter_append, back, List.append_nil]
  rcases sound.isCredentials with none | one
  · rw [none]
    rfl
  · rw [one]
    rfl

/-- A sound draft whose kinds resolve is built. -/
theorem build_eq_ok (sound : e.IsSound service route credentials others)
    {resolved : List ResolvedArgument}
    (kinds : Endpoint.resolve route (others.map fun a => (a.name, ⟨a.type.render, a.kind⟩)) =
      .ok resolved) :
    e.build service = .ok ⟨e.name, route, credentials ++ List.zipWith withKind others resolved,
      e.result, e.auth, e.docs⟩ := by
  have settled : Endpoint.resolve route e.declared = .ok resolved := by
    rw [← kinds, ← sound.others_eq]
    rfl
  refine build_eq_ok_iff.mpr ⟨route, resolved, sound.read, sound.distinct_args,
    sound.not_isForeign, settled, sound.isCovered, ?_⟩
  rw [ordered_eq sound.distinct_args (names_of_resolved settled), sound.credentials_eq,
    sound.others_eq]

end IsSound

end EndpointDraft

namespace ServiceDraft

/-! ## The draft of a module -/

theorem start_eq (m : Module) :
    start m = ⟨m.name, m.docs, m.auth.toList.filter Auth.isRequired, []⟩ := by
  rw [start]
  cases m.auth with
  | none => rfl
  | some a =>
      rw [Option.elim_some, addAuth]
      by_cases required : a.isRequired = true
      · simp [required, new]
      · simp [required, new]

theorem ofModule_eq_ok_iff {p : Project} {module : String} {draft : ServiceDraft} :
    ofModule p module = .ok draft ↔
      ∃ m, p.module? module = some m ∧ ∃ endpoints,
        List.Forall₂ (fun e d => describeEndpoint (TypeRef.converter p module) m e.1 e.2 = .ok d)
          m.endpointList endpoints ∧
        draft = ⟨m.name, m.docs, m.auth.toList.filter Auth.isRequired, endpoints⟩ := by
  rw [ofModule, bind_eq_ok_iff]
  refine exists_congr fun m => and_congr Project.getModule_eq_ok_iff ?_
  rw [bind_eq_ok_iff]
  refine exists_congr fun endpoints => and_congr mapM_eq_ok_iff ?_
  rw [start_eq]
  exact ⟨fun result => (Except.ok.inj result).symm, fun same => congrArg _ same.symm⟩

/-- An argument with its type converted. The name of credentials is reserved. -/
def Describes (c : Converter TypeRef) (a : String × Argument) (d : ArgumentDescription) : Prop :=
  a.1 ≠ credentialsArgument ∧
    ∃ type, (c.convert a.2.type).result = .ok type ∧ d = ⟨a.1, a.2.kind, type, "", none⟩

theorem rightUnique_describes (c : Converter TypeRef) : Relator.RightUnique (Describes c) := by
  rintro a d d' ⟨-, type, converted, rfl⟩ ⟨-, type', converted', rfl⟩
  cases converted.symm.trans converted'
  rfl

/-- The draft of an endpoint with given arguments behind its credentials. -/
def endpointDraft (m : Module) (name : String) (e : Endpoint) (args : List ArgumentDescription)
    (result : Option TypeRef) : EndpointDraft :=
  ⟨name, e.route.render, credentialArguments m e ++ args, result, e.auth.toList, e.docs⟩

section Endpoint

variable {c : Converter TypeRef} {m : Module} {name : String} {e : Endpoint}
variable {args : List ArgumentDescription} {result : Option TypeRef}

theorem describeArguments_eq_ok_iff {declared : List (String × Argument)} :
    describeArguments c name declared = .ok args ↔ List.Forall₂ (Describes c) declared args := by
  rw [describeArguments, mapM_eq_ok_iff]
  refine Iff.of_eq (congrArg (fun r => List.Forall₂ r declared args) ?_)
  funext a d
  apply propext
  by_cases reserved : a.1 = credentialsArgument
  · simp [Describes, reserved]
  · simp only [beq_iff_eq, reserved, if_false]
    rw [bind_eq_ok_iff]
    simp only [labelled_eq_ok_iff, Describes, ne_eq, reserved, not_false_eq_true, true_and]
    refine exists_congr fun type => and_congr_right fun _ => ?_
    exact ⟨fun done => (Except.ok.inj done).symm, fun same => congrArg _ same.symm⟩

theorem describeEndpoint_eq_ok_iff {d : EndpointDraft} :
    describeEndpoint c m name e = .ok d ↔
      ∃ args result, List.Forall₂ (Describes c) e.argumentList args ∧
        describeResult c name e = .ok result ∧ d = endpointDraft m name e args result := by
  rw [describeEndpoint, bind_eq_ok_iff]
  refine exists_congr fun args => ?_
  rw [describeArguments_eq_ok_iff, bind_eq_ok_iff, ← exists_and_left]
  refine exists_congr fun result => and_congr_right fun _ => and_congr_right fun _ => ?_
  exact ⟨fun done => (Except.ok.inj done).symm, fun same => congrArg _ same.symm⟩

theorem name_of_describeEndpoint {d : EndpointDraft}
    (described : describeEndpoint c m name e = .ok d) : d.name = name := by
  obtain ⟨args, result, -, -, rfl⟩ := describeEndpoint_eq_ok_iff.mp described
  rfl

/-- Credentials are taken exactly if the authentication in force requires them. -/
theorem any_effectiveAuth (m : Module) (name : String) (e : Endpoint)
    (args : List ArgumentDescription) (result : Option TypeRef) :
    ((endpointDraft m name e args result).effectiveAuth
      (m.auth.toList.filter Auth.isRequired)).any Auth.isRequired = (m.endpointAuth e).isSome := by
  rw [Module.endpointAuth, Endpoint.effectiveAuth, Endpoint.requiresAuth,
    EndpointDraft.effectiveAuth, endpointDraft]
  cases e.auth with
  | some a => by_cases required : a.isRequired = true <;> simp [required]
  | none =>
      cases m.auth with
      | none => rfl
      | some a => by_cases required : a.isRequired = true <;> simp [required]

/-- However the route is read, the draft of an endpoint is sound. -/
theorem isSound_of_read {route : Route} (read : Route.parse e.route.render = .ok route)
    (names : args.map (·.name) = e.argumentList.map (·.1))
    (plain : ∀ a ∈ args, a.name ≠ credentialsArgument ∧ a.kind ≠ some .auth) :
    (endpointDraft m name e args result).IsSound (m.auth.toList.filter Auth.isRequired) route
      (credentialArguments m e) args where
  read := read
  args := rfl
  isCredentials := by
    rw [credentialArguments]
    split
    · exact .inr rfl
    · exact .inl rfl
  isPlain := plain
  distinct := names ▸ e.nodup_argumentList
  present := by
    intro required
    rw [any_effectiveAuth] at required
    rw [credentialArguments, if_pos required]
    exact List.cons_ne_nil _ _

theorem isSound_endpointDraft (routed : ∃ s, Route.parse s = .ok e.route)
    (names : args.map (·.name) = e.argumentList.map (·.1))
    (plain : ∀ a ∈ args, a.name ≠ credentialsArgument ∧ a.kind ≠ some .auth) :
    (endpointDraft m name e args result).IsSound (m.auth.toList.filter Auth.isRequired) e.route
      (credentialArguments m e) args := by
  obtain ⟨s, read⟩ := routed
  exact isSound_of_read (Route.parse_render_of_parse read) names plain

end Endpoint

section Arguments

variable {c : Converter TypeRef} {declared : List (String × Argument)}
variable {args : List ArgumentDescription}

theorem signatures_of_describes (described : List.Forall₂ (Describes c) declared args) :
    args.map (fun a => (a.name, a.kind)) = declared.map Endpoint.signature := by
  induction described with
  | nil => rfl
  | cons first _ ih =>
      obtain ⟨-, type, -, rfl⟩ := first
      rw [List.map_cons, List.map_cons, ih]
      rfl

theorem names_of_describes (described : List.Forall₂ (Describes c) declared args) :
    args.map (·.name) = declared.map (·.1) := by
  have pairs := congrArg (List.map Prod.fst) (signatures_of_describes described)
  rw [List.map_map, List.map_map] at pairs
  exact pairs

theorem isPlain_of_describes (described : List.Forall₂ (Describes c) declared args)
    (kinds : ∀ a ∈ declared, ∀ kind, a.2.kind = some kind → kind ∈ Endpoint.declarableKinds) :
    ∀ a ∈ args, a.name ≠ credentialsArgument ∧ a.kind ≠ some .auth := by
  induction described with
  | nil => exact List.forall_mem_nil _
  | cons first _ ih =>
      obtain ⟨reserved, type, -, rfl⟩ := first
      rw [List.forall_mem_cons] at kinds ⊢
      refine ⟨⟨reserved, fun auth => ?_⟩, ih kinds.2⟩
      exact absurd (kinds.1 .auth auth) (by decide)

/-- Arguments that were given kinds are described as if they had declared them. -/
theorem describes_withKind (described : List.Forall₂ (Describes c) declared args)
    {out again : List ResolvedArgument}
    (kept : out.map (fun r => (r.name, r.type)) = declared.map fun a => (a.1, a.2.type))
    (places : again.map ResolvedArgument.place = out.map ResolvedArgument.place) :
    List.Forall₂ (Describes c) (out.map ResolvedArgument.declaration)
      (List.zipWith withKind args again) := by
  induction described generalizing out again with
  | nil =>
      rw [List.map_nil, List.map_eq_nil_iff] at kept
      rw [kept]
      exact .nil
  | cons first _ ih =>
      obtain ⟨r, out, rfl, same, others⟩ := List.map_eq_cons_iff.mp kept
      obtain ⟨r', again, rfl, place, more⟩ := List.map_eq_cons_iff.mp places
      obtain ⟨reserved, type, converted, rfl⟩ := first
      obtain ⟨name, sameType⟩ := Prod.mk.inj same
      obtain ⟨-, kind⟩ := Prod.mk.inj place
      refine .cons ⟨?_, type, ?_, ?_⟩ (ih others more)
      · exact fun auth => reserved (name.symm.trans auth)
      · rw [← converted, ← sameType]
        rfl
      · rw [withKind, kind, ← name]
        rfl

end Arguments

/-- The description of an endpoint: its arguments with the kinds that they are given, behind
the credentials that it needs. -/
def Completes (c : Converter TypeRef) (m : Module) (e : String × Endpoint)
    (b : EndpointDescription) : Prop :=
  ∃ resolved args result, e.2.resolveArguments = .ok resolved ∧
    List.Forall₂ (Describes c) (resolved.map ResolvedArgument.declaration) args ∧
    describeResult c e.1 e.2 = .ok result ∧
    b = ⟨e.1, e.2.route, credentialArguments m e.2 ++ args, result, e.2.auth.toList, e.2.docs⟩

theorem rightUnique_completes (c : Converter TypeRef) (m : Module) :
    Relator.RightUnique (Completes c m) := by
  rintro e b b' ⟨resolved, args, result, kinds, described, returned, rfl⟩
    ⟨resolved', args', result', kinds', described', returned', rfl⟩
  cases kinds.symm.trans kinds'
  cases returned.symm.trans returned'
  rw [List.right_unique_forall₂' (rightUnique_describes c) described described']

/-- Whether the arguments of an endpoint are described with their declared kinds or with other
declarable kinds that resolve in the same way, the endpoint is built, and its description is
the same. -/
theorem build_endpointDraft {c : Converter TypeRef} {m : Module} {e : String × Endpoint}
    (routed : ∃ s, Route.parse s = .ok e.2.route) {declared : List (String × Argument)}
    (names : declared.map (·.1) = e.2.argumentList.map (·.1))
    (kinds : ∀ a ∈ declared, ∀ kind, a.2.kind = some kind → kind ∈ Endpoint.declarableKinds)
    {args : List ArgumentDescription} (described : List.Forall₂ (Describes c) declared args)
    {out : List ResolvedArgument} (settled : Endpoint.resolve e.2.route declared = .ok out)
    (resolved : e.2.resolveArguments = .ok out) {result : Option TypeRef}
    (returned : describeResult c e.1 e.2 = .ok result) :
    ∃ b, (endpointDraft m e.1 e.2 args result).build (m.auth.toList.filter Auth.isRequired) =
      .ok b ∧ Completes c m e b := by
  have sound : (endpointDraft m e.1 e.2 args result).IsSound _ e.2.route _ args :=
    isSound_endpointDraft routed ((names_of_describes described).trans names)
      (isPlain_of_describes described kinds)
  have same : declared.map Endpoint.signature =
      (args.map fun a => (a.name, (⟨a.type.render, a.kind⟩ : Argument))).map
        Endpoint.signature := by
    rw [← signatures_of_describes described, List.map_map]
    rfl
  obtain ⟨again, resolves, places⟩ := Endpoint.resolve_congr same settled
  obtain ⟨-, -, rfl⟩ := Endpoint.resolve_eq_ok_iff.mp settled
  refine ⟨_, sound.build_eq_ok resolves, _, _, result, resolved, ?_, returned, rfl⟩
  exact describes_withKind described (Endpoint.map_ruled e.2.route declared) places

/-- A checked endpoint that is described is built. -/
theorem build_of_describeEndpoint {c : Converter TypeRef} {m : Module} {e : String × Endpoint}
    (valid : e.2.IsValid) (routed : ∃ s, Route.parse s = .ok e.2.route) {d : EndpointDraft}
    (described : describeEndpoint c m e.1 e.2 = .ok d) :
    ∃ b, d.build (m.auth.toList.filter Auth.isRequired) = .ok b ∧ Completes c m e b := by
  obtain ⟨args, result, arguments, returned, rfl⟩ := describeEndpoint_eq_ok_iff.mp described
  obtain ⟨out, resolved⟩ := valid.resolves
  exact build_endpointDraft routed rfl valid.kinds arguments resolved resolved returned

/-- So is one whose arguments are described with the kinds that they are given. -/
theorem build_of_resolved {c : Converter TypeRef} {m : Module} {e : String × Endpoint}
    (valid : e.2.IsValid) (routed : ∃ s, Route.parse s = .ok e.2.route)
    {out : List ResolvedArgument} (resolved : e.2.resolveArguments = .ok out)
    {args : List ArgumentDescription}
    (described : List.Forall₂ (Describes c) (out.map ResolvedArgument.declaration) args)
    {result : Option TypeRef} (returned : describeResult c e.1 e.2 = .ok result) :
    ∃ b, (endpointDraft m e.1 e.2 args result).build (m.auth.toList.filter Auth.isRequired) =
      .ok b ∧ Completes c m e b := by
  have settled := Endpoint.resolve_declaration resolved
  refine build_endpointDraft routed ?_ ?_ described settled resolved returned
  · rw [← Endpoint.names_of_resolve resolved, List.map_map]
    rfl
  · obtain ⟨-, -, rfl⟩ := Endpoint.resolve_eq_ok_iff.mp resolved
    rw [List.forall_mem_map]
    intro r mem kind declared
    exact Option.some.inj declared ▸ Endpoint.kind_mem_of_mem_ruled valid.kinds mem

/-- The draft of an endpoint under its name, which is built. -/
def Drafts (c : Converter TypeRef) (m : Module) (e : String × Endpoint) (d : EndpointDraft) :
    Prop :=
  d.name = e.1 ∧
    ∃ b, d.build (m.auth.toList.filter Auth.isRequired) = .ok b ∧ Completes c m e b

theorem exists_built {c : Converter TypeRef} {m : Module} {endpoints : List (String × Endpoint)}
    {drafts : List EndpointDraft} (each : List.Forall₂ (Drafts c m) endpoints drafts) :
    drafts.map (·.name) = endpoints.map (·.1) ∧
      ∃ built, List.Forall₂ (Completes c m) endpoints built ∧
        List.Forall₂ (fun d b => d.build (m.auth.toList.filter Auth.isRequired) = .ok b)
          drafts built := by
  induction each with
  | nil => exact ⟨rfl, [], .nil, .nil⟩
  | cons first _ ih =>
      obtain ⟨name, b, result, completes⟩ := first
      obtain ⟨names, built, completed, results⟩ := ih
      refine ⟨?_, b :: built, .cons completes completed, .cons result results⟩
      rw [List.map_cons, List.map_cons, name, names]

/-- A service with a draft for each endpoint of a module is built. -/
theorem build_of_drafts {c : Converter TypeRef} {m : Module} {drafts : List EndpointDraft}
    (each : List.Forall₂ (Drafts c m) m.endpointList drafts) :
    ∃ built, List.Forall₂ (Completes c m) m.endpointList built ∧
      ServiceDraft.build ⟨m.name, m.docs, m.auth.toList.filter Auth.isRequired, drafts⟩ =
        .ok ⟨m.name, m.auth.toList.filter Auth.isRequired, built, m.docs⟩ := by
  have distinct : (m.endpointList.map (·.1)).Nodup := Module.nodup_defined m.endpoints
  obtain ⟨names, built, completed, results⟩ := exists_built each
  refine ⟨built, completed, bind_eq_ok_iff.mpr ⟨built, ?_, rfl⟩⟩
  exact buildAll_eq_ok_iff.mpr ⟨⟨names ▸ distinct, fun _ _ => List.not_mem_nil⟩, results⟩

/-- The service of a checked module is built from its draft. -/
theorem build_of_ofModule {p : Project} (checked : p.IsChecked) {module : String}
    {draft : ServiceDraft} (drafted : ofModule p module = .ok draft) :
    ∃ m built, p.module? module = some m ∧
      List.Forall₂ (Completes (TypeRef.converter p module) m) m.endpointList built ∧
      draft.build = .ok ⟨m.name, m.auth.toList.filter Auth.isRequired, built, m.docs⟩ := by
  obtain ⟨m, found, drafts, described, rfl⟩ := ofModule_eq_ok_iff.mp drafted
  have mem := Project.module?_eq_some_iff.mp found
  have each : List.Forall₂ (Drafts (TypeRef.converter p module) m) m.endpointList drafts :=
    ((List.forall₂_and_left _ _).mpr ⟨fun _ => id, described⟩).imp fun e d ⟨inside, drafted⟩ =>
      ⟨name_of_describeEndpoint drafted,
        build_of_describeEndpoint ((checked.isValid mem).endpoints e inside)
          (checked.routes _ mem e inside) drafted⟩
  obtain ⟨built, completed, result⟩ := build_of_drafts each
  exact ⟨m, built, found, completed, result⟩

end ServiceDraft

end ApiCompiler
