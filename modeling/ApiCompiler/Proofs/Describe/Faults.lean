import ApiCompiler.Describe.Draft
import ApiCompiler.Proofs.Endpoint.Kinds
import ApiCompiler.Proofs.Keyed
import ApiCompiler.Proofs.Route.RoundTrip

/-!
# Faults of endpoints under construction

When a draft of an endpoint is built, what is wrong with it otherwise, and which fault is
reported: the checks are made in a fixed order, and the first that fails counts.
-/

namespace ApiCompiler

open Fallible

/-- An argument with the kind that it was given. -/
def withKind (a : ArgumentDescription) (r : ResolvedArgument) : ArgumentDescription :=
  { a with kind := some r.kind }

namespace ArgumentDescription

/-- An argument without its kind. -/
def unkinded (a : ArgumentDescription) : ArgumentDescription := { a with kind := Option.none }

/-- An argument of another name that claims the kind of credentials. -/
def IsForeign (a : ArgumentDescription) : Prop :=
  a.name ≠ credentialsArgument ∧ a.kind = some .auth

end ArgumentDescription

namespace EndpointDraft

variable {e : EndpointDraft} {service : List Auth} {cause : Error}

/-- The methods of authentication in force: those of the endpoint, or else those of
the service. -/
def effectiveAuth (e : EndpointDraft) (service : List Auth) : List Auth :=
  if e.auth.isEmpty then service else e.auth

/-- The authentication in force holds a method that asks for credentials. -/
def RequiresCredentials (e : EndpointDraft) (service : List Auth) : Prop :=
  ∃ a ∈ e.effectiveAuth service, a.method ≠ .none

instance : Decidable (e.RequiresCredentials service) :=
  inferInstanceAs (Decidable (∃ a ∈ _, _))

/-- An endpoint that cannot be built. -/
inductive IsFaulty (e : EndpointDraft) (service : List Auth) : Prop where
  | route (unread : ∀ route, Route.parse e.http ≠ .ok route)
  | repeated (twice : ¬(e.args.map (·.name)).Nodup)
  | foreign {a : ArgumentDescription} (mem : a ∈ e.args) (claims : a.IsForeign)
  | kinds {route : Route} (read : Route.parse e.http = .ok route)
      (refused : ∀ out, Endpoint.resolve route e.declared ≠ .ok out)
  | credentials (required : e.RequiresCredentials service)
      (missing : credentialsArgument ∉ e.args.map (·.name))

/-- The fault that is reported. What is checked before it is in order. -/
inductive Fault (e : EndpointDraft) (service : List Auth) : Error → Prop where
  | route {cause : Error} (refused : Route.parse e.http = .error cause) : Fault e service cause
  | repeated {route : Route} {before after : List String} {name : String}
      (read : Route.parse e.http = .ok route)
      (split : e.args.map (·.name) = before ++ name :: after) (distinct : before.Nodup)
      (again : name ∈ before) : Fault e service (.argument (.repeated name))
  | foreign {route : Route} {before after : List ArgumentDescription} {a : ArgumentDescription}
      (read : Route.parse e.http = .ok route) (distinct : (e.args.map (·.name)).Nodup)
      (split : e.args = before ++ a :: after) (plain : ∀ b ∈ before, ¬b.IsForeign)
      (claims : a.IsForeign) : Fault e service (.argument (.foreignAuthKind a.name))
  | kinds {route : Route} {cause : Error} (read : Route.parse e.http = .ok route)
      (distinct : (e.args.map (·.name)).Nodup) (plain : ∀ a ∈ e.args, ¬a.IsForeign)
      (refused : Endpoint.resolve route e.declared = .error cause) : Fault e service cause
  | credentials {route : Route} {resolved : List ResolvedArgument}
      (read : Route.parse e.http = .ok route) (distinct : (e.args.map (·.name)).Nodup)
      (plain : ∀ a ∈ e.args, ¬a.IsForeign)
      (settled : Endpoint.resolve route e.declared = .ok resolved)
      (required : e.RequiresCredentials service)
      (missing : credentialsArgument ∉ e.args.map (·.name)) :
      Fault e service (.argument (.missingCredentials credentialsArgument route.render))

/-! ## The checks one by one -/

theorem checkNames_eq_ok_iff : e.checkNames = .ok () ↔ (e.args.map (·.name)).Nodup := by
  have none := @Route.firstRepeated_eq_none_iff [] (e.args.map (·.name))
  simp only [List.not_mem_nil, not_false_eq_true, implies_true, and_true] at none
  rw [← none, checkNames]
  cases Route.firstRepeated [] (e.args.map (·.name)) with
  | none => simp
  | some name => simp

theorem checkNames_eq_error_iff :
    e.checkNames = .error cause ↔
      ∃ before after name, e.args.map (·.name) = before ++ name :: after ∧ before.Nodup ∧
        name ∈ before ∧ cause = .argument (.repeated name) := by
  have found_iff := @Route.firstRepeated_eq_some_iff [] (e.args.map (·.name))
  simp only [List.not_mem_nil, not_false_eq_true, implies_true, true_and, or_false] at found_iff
  rw [checkNames]
  constructor
  · intro failed
    cases found : Route.firstRepeated [] (e.args.map (·.name)) with
    | none =>
        rw [found] at failed
        exact nomatch failed
    | some name =>
        rw [found] at failed
        obtain ⟨before, after, split, distinct, again⟩ := found_iff.mp found
        exact ⟨before, after, name, split, distinct, again, (Except.error.inj failed).symm⟩
  · rintro ⟨before, after, name, split, distinct, again, rfl⟩
    rw [found_iff.mpr ⟨before, after, split, distinct, again⟩]

theorem isForeign_iff {a : ArgumentDescription} :
    (a.name != credentialsArgument && a.kind == some .auth) = true ↔ a.IsForeign := by
  rw [Bool.and_eq_true, bne_iff_ne, beq_iff_eq]
  rfl

theorem checkKinds_eq_ok_iff : e.checkKinds = .ok () ↔ ∀ a ∈ e.args, ¬a.IsForeign := by
  have none : e.foreignCredentials? = none ↔ ∀ a ∈ e.args, ¬a.IsForeign := by
    rw [foreignCredentials?, Option.map_eq_none_iff, List.find?_eq_none]
    simp only [isForeign_iff]
  rw [← none, checkKinds]
  cases e.foreignCredentials? with
  | none => simp
  | some name => simp

theorem checkKinds_eq_error_iff :
    e.checkKinds = .error cause ↔
      ∃ before after a, e.args = before ++ a :: after ∧ (∀ b ∈ before, ¬b.IsForeign) ∧
        a.IsForeign ∧ cause = .argument (.foreignAuthKind a.name) := by
  have found_iff {a : ArgumentDescription} :
      (e.args.find? fun a => a.name != credentialsArgument && a.kind == some .auth) = some a ↔
        a.IsForeign ∧ ∃ before after, e.args = before ++ a :: after ∧
          ∀ b ∈ before, ¬b.IsForeign := by
    rw [List.find?_eq_some_iff_append]
    simp only [isForeign_iff, Bool.not_eq_true', ← Bool.not_eq_true]
  rw [checkKinds, foreignCredentials?]
  constructor
  · intro failed
    cases found : e.args.find? fun a => a.name != credentialsArgument && a.kind == some .auth with
    | none =>
        rw [found] at failed
        exact nomatch failed
    | some a =>
        rw [found] at failed
        obtain ⟨claims, before, after, split, plain⟩ := found_iff.mp found
        exact ⟨before, after, a, split, plain, claims, (Except.error.inj failed).symm⟩
  · rintro ⟨before, after, a, split, plain, claims, rfl⟩
    rw [found_iff.mpr ⟨claims, before, after, split, plain⟩]
    rfl

theorem requiresCredentials_iff :
    (e.effectiveAuth service).any Auth.isRequired = true ↔ e.RequiresCredentials service := by
  rw [List.any_eq_true]
  simp only [Auth.isRequired, decide_eq_true_eq]
  rfl

theorem checkCredentials_eq (e : EndpointDraft) (route : Route) (service : List Auth) :
    e.checkCredentials route service =
      if e.RequiresCredentials service ∧ credentialsArgument ∉ e.args.map (·.name) then
        .error (.argument (.missingCredentials credentialsArgument route.render))
      else .ok () := by
  have missing : (!e.args.any (·.name == credentialsArgument)) = true ↔
      credentialsArgument ∉ e.args.map (·.name) := by
    simp [List.mem_map]
  rw [checkCredentials]
  refine if_congr ?_ rfl rfl
  rw [Bool.and_eq_true, missing, ← requiresCredentials_iff]
  rfl

/-! ## All checks -/

theorem build_eq_ok_iff {b : EndpointDescription} :
    e.build service = .ok b ↔
      ∃ route resolved, Route.parse e.http = .ok route ∧ (e.args.map (·.name)).Nodup ∧
        (∀ a ∈ e.args, ¬a.IsForeign) ∧ Endpoint.resolve route e.declared = .ok resolved ∧
        ¬(e.RequiresCredentials service ∧ credentialsArgument ∉ e.args.map (·.name)) ∧
        b = ⟨e.name, route, e.ordered resolved, e.result, e.auth, e.docs⟩ := by
  rw [build, bind_eq_ok_iff]
  simp only [bind_eq_ok_iff, checkCredentials_eq]
  constructor
  · rintro ⟨route, read, ⟨⟩, names, ⟨⟩, kinds, resolved, settled, ⟨⟩, covered, rest⟩
    refine ⟨route, resolved, read, checkNames_eq_ok_iff.mp names, checkKinds_eq_ok_iff.mp kinds,
      settled, fun missing => ?_, (Except.ok.inj rest).symm⟩
    rw [if_pos missing] at covered
    exact nomatch covered
  · rintro ⟨route, resolved, read, distinct, plain, settled, covered, rfl⟩
    exact ⟨route, read, (), checkNames_eq_ok_iff.mpr distinct, (), checkKinds_eq_ok_iff.mpr plain,
      resolved, settled, (), if_neg covered, rfl⟩

/-- The arguments that carry credentials. -/
def credentials (e : EndpointDraft) : List ArgumentDescription :=
  (e.args.filter (·.name == credentialsArgument)).map fun a => { a with kind := some .auth }

/-- The arguments besides credentials, in the order of declaration. -/
def others (e : EndpointDraft) : List ArgumentDescription :=
  e.args.filter (·.name != credentialsArgument)

/-- If no name stands twice, every argument is found again under its name when its kind is
settled. -/
theorem ordered_eq (distinct : (e.args.map (·.name)).Nodup) {resolved : List ResolvedArgument}
    (names : resolved.map (·.name) = e.others.map (·.name)) :
    e.ordered resolved = e.credentials ++ List.zipWith withKind e.others resolved := by
  have each {as : List ArgumentDescription} (inside : ∀ a ∈ as, a ∈ e.args)
      {resolved : List ResolvedArgument} (names : resolved.map (·.name) = as.map (·.name)) :
      resolved.map (fun r =>
        { (e.args.find? (·.name == r.name)).getD .none with kind := some r.kind }) =
        List.zipWith withKind as resolved := by
    induction as generalizing resolved with
    | nil =>
        rw [List.map_nil, List.map_eq_nil_iff] at names
        rw [names]
        rfl
    | cons a as ih =>
        obtain ⟨r, rest, rfl, name, more⟩ := List.map_eq_cons_iff.mp names
        rw [List.forall_mem_cons] at inside
        rw [List.map_cons, List.zipWith_cons_cons, ih inside.2 more, name,
          Keyed.find?_key_of_nodup distinct inside.1]
        rfl
  rw [ordered, each (fun a mem => List.mem_of_mem_filter mem) names]
  rfl

/-- An endpoint is faulty exactly if it is not built. -/
theorem isFaulty_iff : e.IsFaulty service ↔ ¬Succeeds (e.build service) := by
  constructor
  · rintro faulty ⟨b, built⟩
    obtain ⟨route, resolved, read, distinct, plain, settled, covered, -⟩ :=
      build_eq_ok_iff.mp built
    cases faulty with
    | route unread => exact unread route read
    | repeated twice => exact twice distinct
    | foreign mem claims => exact plain _ mem claims
    | kinds read' refused =>
        cases read.symm.trans read'
        exact refused resolved settled
    | credentials required missing => exact covered ⟨required, missing⟩
  · intro failed
    by_contra sound
    apply failed
    have readable : ∃ route, Route.parse e.http = .ok route := by
      by_contra none
      exact sound (.route fun route read => none ⟨route, read⟩)
    obtain ⟨route, read⟩ := readable
    have settled : ∃ resolved, Endpoint.resolve route e.declared = .ok resolved := by
      by_contra none
      exact sound (.kinds read fun out settled => none ⟨out, settled⟩)
    obtain ⟨resolved, settled⟩ := settled
    refine ⟨_, build_eq_ok_iff.mpr ⟨route, resolved, read, ?_, ?_, settled, ?_, rfl⟩⟩
    · exact not_not.mp fun twice => sound (.repeated twice)
    · exact fun a mem claims => sound (.foreign mem claims)
    · exact fun missing => sound (.credentials missing.1 missing.2)

/-- The error of an endpoint is its first fault. -/
theorem build_eq_error_iff : e.build service = .error cause ↔ e.Fault service cause := by
  rw [build]
  simp only [bind_eq_error_iff, checkCredentials_eq]
  constructor
  · rintro (refused | ⟨route, read, repeated | ⟨⟨⟩, names, foreign | ⟨⟨⟩, kinds, refused |
      ⟨resolved, settled, missing | ⟨⟨⟩, -, impossible⟩⟩⟩⟩⟩)
    · exact .route refused
    · obtain ⟨before, after, name, split, distinct, again, rfl⟩ :=
        checkNames_eq_error_iff.mp repeated
      exact .repeated read split distinct again
    · obtain ⟨before, after, a, split, plain, claims, rfl⟩ := checkKinds_eq_error_iff.mp foreign
      exact .foreign read (checkNames_eq_ok_iff.mp names) split plain claims
    · exact .kinds read (checkNames_eq_ok_iff.mp names) (checkKinds_eq_ok_iff.mp kinds) refused
    · split at missing
      · rename_i uncovered
        cases missing
        exact .credentials read (checkNames_eq_ok_iff.mp names) (checkKinds_eq_ok_iff.mp kinds)
          settled uncovered.1 uncovered.2
      · exact nomatch missing
    · exact nomatch impossible
  · intro fault
    cases fault with
    | route refused => exact .inl refused
    | repeated read split distinct again =>
        have failed := checkNames_eq_error_iff.mpr ⟨_, _, _, split, distinct, again, rfl⟩
        exact .inr ⟨_, read, .inl failed⟩
    | foreign read distinct split plain claims =>
        have failed := checkKinds_eq_error_iff.mpr ⟨_, _, _, split, plain, claims, rfl⟩
        exact .inr ⟨_, read, .inr ⟨(), checkNames_eq_ok_iff.mpr distinct, .inl failed⟩⟩
    | kinds read distinct plain refused =>
        exact .inr ⟨_, read, .inr ⟨(), checkNames_eq_ok_iff.mpr distinct,
          .inr ⟨(), checkKinds_eq_ok_iff.mpr plain, .inl refused⟩⟩⟩
    | credentials read distinct plain settled required missing =>
        refine .inr ⟨_, read, .inr ⟨(), checkNames_eq_ok_iff.mpr distinct,
          .inr ⟨(), checkKinds_eq_ok_iff.mpr plain, .inr ⟨_, settled, .inl ?_⟩⟩⟩⟩
        rw [if_pos ⟨required, missing⟩]

/-! ## What is built -/

/-- The description of an endpoint: what was declared, with credentials as the first argument and
the kinds of the others settled. -/
structure IsBuilt (e : EndpointDraft) (b : EndpointDescription) : Prop where
  name : b.name = e.name
  docs : b.docs = e.docs
  auth : b.auth = e.auth
  result : b.result = e.result
  route : Route.parse e.http = .ok b.route
  single : e.credentials.length ≤ 1
  args : ∃ resolved, Endpoint.resolve b.route e.declared = .ok resolved ∧
    resolved.map (·.name) = e.others.map (·.name) ∧
    b.args = e.credentials ++ List.zipWith withKind e.others resolved
  /-- No argument is lost or stands twice, and each is as declared but for its kind. -/
  complete : (b.args.map (·.unkinded)).Perm (e.args.map (·.unkinded))

theorem names_of_resolved {route : Route} {resolved : List ResolvedArgument}
    (settled : Endpoint.resolve route e.declared = .ok resolved) :
    resolved.map (·.name) = e.others.map (·.name) := by
  rw [Endpoint.names_of_resolve settled, declared, List.map_map]
  rfl

theorem length_credentials_le_one (distinct : (e.args.map (·.name)).Nodup) :
    e.credentials.length ≤ 1 := by
  have once := List.nodup_iff_count_le_one.mp distinct credentialsArgument
  rw [List.count, List.countP_map] at once
  rw [credentials, List.length_map, ← List.countP_eq_length_filter]
  exact once

theorem map_unkinded_zipWith {as : List ArgumentDescription} {resolved : List ResolvedArgument}
    (length : resolved.length = as.length) :
    (List.zipWith withKind as resolved).map (·.unkinded) = as.map (·.unkinded) := by
  apply List.ext_getElem
  · simp [length]
  · intro i _ _
    simp [withKind, ArgumentDescription.unkinded]

theorem perm_unkinded {resolved : List ResolvedArgument}
    (length : resolved.length = e.others.length) :
    ((e.credentials ++ List.zipWith withKind e.others resolved).map (·.unkinded)).Perm
      (e.args.map (·.unkinded)) := by
  have first : e.credentials.map (·.unkinded) =
      (e.args.filter (·.name == credentialsArgument)).map (·.unkinded) := by
    rw [credentials, List.map_map]
    rfl
  rw [List.map_append, map_unkinded_zipWith length, first, ← List.map_append]
  exact (List.filter_append_perm (·.name == credentialsArgument) e.args).map _

theorem isBuilt_of_build {b : EndpointDescription} (built : e.build service = .ok b) :
    e.IsBuilt b := by
  obtain ⟨route, resolved, read, distinct, -, settled, -, rfl⟩ := build_eq_ok_iff.mp built
  have names := names_of_resolved settled
  have ordered := ordered_eq distinct names
  refine ⟨rfl, rfl, rfl, rfl, read, length_credentials_le_one distinct,
    ⟨resolved, settled, names, ordered⟩, ?_⟩
  rw [ordered]
  exact perm_unkinded (by simpa using congrArg List.length names)

end EndpointDraft

namespace ServiceDraft

/-- A service is built exactly if no two endpoints have one name and each of them is
built. -/
theorem buildAll_eq_ok_iff {s : ServiceDraft} {seen : List String} {drafts : List EndpointDraft}
    {built : List EndpointDescription} :
    s.buildAll seen drafts = .ok built ↔
      ((drafts.map (·.name)).Nodup ∧ ∀ n ∈ drafts.map (·.name), n ∉ seen) ∧
        List.Forall₂ (fun d b => d.build s.auth = .ok b) drafts built := by
  induction drafts generalizing seen built with
  | nil => simp [buildAll, eq_comm]
  | cons d rest ih =>
      by_cases present : d.name ∈ seen
      · rw [buildAll, if_pos (List.contains_iff_mem.mpr present), List.map_cons]
        exact iff_of_false (nomatch ·) fun all => all.1.2 d.name List.mem_cons_self present
      · rw [buildAll, if_neg (present ∘ List.contains_iff_mem.mp), List.map_cons,
          Route.nodup_cons_unseen_iff present, List.forall₂_cons_left_iff]
        change (labelled _ (d.build s.auth) >>= fun b => s.buildAll (d.name :: seen) rest >>=
          fun more => pure (b :: more)) = _ ↔ _
        constructor
        · intro result
          obtain ⟨b, first, others⟩ := bind_eq_ok_iff.mp result
          obtain ⟨more, tail, all⟩ := bind_eq_ok_iff.mp others
          obtain ⟨fresh, each⟩ := ih.mp tail
          exact ⟨fresh, b, more, labelled_eq_ok_iff.mp first, each, (Except.ok.inj all).symm⟩
        · rintro ⟨fresh, b, more, first, each, rfl⟩
          refine bind_eq_ok_iff.mpr ⟨b, labelled_eq_ok_iff.mpr first, ?_⟩
          exact bind_eq_ok_iff.mpr ⟨more, ih.mpr ⟨fresh, each⟩, rfl⟩

theorem build_eq_ok_iff {s : ServiceDraft} {service : ServiceDescription} :
    s.build = .ok service ↔
      (s.endpoints.map (·.name)).Nodup ∧ ∃ built,
        List.Forall₂ (fun d b => d.build s.auth = .ok b) s.endpoints built ∧
        service = ⟨s.name, s.auth, built, s.docs⟩ := by
  rw [build, bind_eq_ok_iff, ← exists_and_left]
  refine exists_congr fun built => ?_
  rw [buildAll_eq_ok_iff]
  simp only [List.not_mem_nil, not_false_iff, implies_true, and_true, and_assoc]
  refine and_congr_right fun _ => and_congr_right fun _ => ?_
  exact ⟨fun done => (Except.ok.inj done).symm, fun same => congrArg _ same.symm⟩

end ServiceDraft

end ApiCompiler
