import ApiCompiler.Proofs.Describe.Faults

/-!
# Services built by calls

A service is put together by calls in any order: calls for the service open endpoints, and
calls for an endpoint may come at any time after it was opened. What the calls declare is read
off their sequence; building fails exactly if some endpoint is faulty or two have one name, and
reports the first such endpoint.
-/

namespace ApiCompiler

open Fallible Text

/-! ## Calls -/

namespace EndpointDraft

/-- A call for an endpoint under construction. No authentication adds nothing. -/
inductive Call where
  | docs (text : RawText)
  | auth (method : Option Auth)
  | arg (a : ArgumentDescription)
  | returns (type : Option TypeRef)

/-- What a call does. -/
def apply (e : EndpointDraft) : Call → EndpointDraft
  | .docs text => { e with docs := text }
  | .auth method => method.elim e e.addAuth
  | .arg a => e.addArg a
  | .returns type => { e with result := type }

namespace Call

/-- The argument that a call adds. -/
def arg? : Call → Option ArgumentDescription
  | arg a => some a
  | _ => none

/-- The method of authentication that a call adds. -/
def auth? : Call → Option Auth
  | auth method => method
  | _ => none

/-- The documentation that a call sets. -/
def docs? : Call → Option RawText
  | docs text => some text
  | _ => none

/-- The result that a call sets. -/
def returns? : Call → Option (Option TypeRef)
  | returns type => some type
  | _ => none

end Call

/-- The endpoint that calls declare: arguments and methods of authentication in the order of the
calls, and the documentation and the result that were set last. -/
def declaredBy (name http : String) (calls : List Call) : EndpointDraft :=
  ⟨name, http, calls.filterMap Call.arg?, (calls.filterMap Call.returns?).getLast?.join,
    calls.filterMap Call.auth?, (calls.filterMap Call.docs?).getLast?.getD ""⟩

theorem apply_declaredBy (name http : String) (calls : List Call) (call : Call) :
    (declaredBy name http calls).apply call = declaredBy name http (calls ++ [call]) := by
  cases call with
  | docs text => simp [declaredBy, apply, Call.arg?, Call.auth?, Call.docs?, Call.returns?]
  | auth method =>
      cases method with
      | none => simp [declaredBy, apply, Call.arg?, Call.auth?, Call.docs?, Call.returns?]
      | some a =>
          simp [declaredBy, apply, addAuth, Call.arg?, Call.auth?, Call.docs?, Call.returns?]
  | arg a => simp [declaredBy, apply, addArg, Call.arg?, Call.auth?, Call.docs?, Call.returns?]
  | returns type => simp [declaredBy, apply, Call.arg?, Call.auth?, Call.docs?, Call.returns?]

theorem foldl_apply_declaredBy (name http : String) (calls more : List Call) :
    more.foldl apply (declaredBy name http calls) = declaredBy name http (calls ++ more) := by
  induction more generalizing calls with
  | nil => rw [List.append_nil, List.foldl_nil]
  | cons call more ih =>
      rw [List.foldl_cons, apply_declaredBy, ih, List.append_assoc, List.singleton_append]

end EndpointDraft

namespace ServiceDraft

/-- A call for a service under construction, or for the endpoint that was opened as the one with
a number, counted from zero. -/
inductive Call where
  | docs (text : RawText)
  | auth (method : Option Auth)
  | endpoint (name http : String)
  | change (number : Nat) (call : EndpointDraft.Call)

/-- Changes the endpoint with a number. -/
def modifyAt (s : ServiceDraft) (number : Nat) (change : EndpointDraft → EndpointDraft) :
    ServiceDraft :=
  { s with endpoints := s.endpoints.modify number change }

/-- What a call does. -/
def apply (s : ServiceDraft) : Call → ServiceDraft
  | .docs text => { s with docs := text }
  | .auth method => method.elim s s.addAuth
  | .endpoint name http => s.addEndpoint (.new name http)
  | .change number call => s.modifyAt number (·.apply call)

/-- The service under construction after calls. -/
def ofCalls (name : String) (calls : List Call) : ServiceDraft := calls.foldl apply (new name)

/-! ## What calls declare -/

namespace Call

/-- The method of authentication that a call adds to the service. -/
def auth? : Call → Option Auth
  | auth method => method.filter Auth.isRequired
  | _ => none

/-- The documentation that a call sets for the service. -/
def docs? : Call → Option RawText
  | docs text => some text
  | _ => none

/-- The call for the endpoint with a number, if it is one. -/
def for? (number : Nat) : Call → Option EndpointDraft.Call
  | change n call => if n = number then some call else none
  | _ => none

end Call

/-- The endpoints that calls open, in order, if the first one gets a number. Each has what the
calls for it declare that come after it was opened. -/
def openedFrom : Nat → List Call → List EndpointDraft
  | _, [] => []
  | n, .endpoint name http :: rest =>
    .declaredBy name http (rest.filterMap (Call.for? n)) :: openedFrom (n + 1) rest
  | n, _ :: rest => openedFrom n rest

/-- The endpoints that calls open. -/
def opened (calls : List Call) : List EndpointDraft := openedFrom 0 calls

/-- The methods of authentication of the service. Those that switch it off do not count. -/
def methodsOf (calls : List Call) : List Auth := calls.filterMap Call.auth?

/-- The documentation of the service: what was set last. -/
def docsOf (calls : List Call) : RawText := (calls.filterMap Call.docs?).getLast?.getD ""

@[simp]
theorem endpoints_addAuth (s : ServiceDraft) (a : Auth) :
    (s.addAuth a).endpoints = s.endpoints := by
  rw [addAuth]
  split <;> rfl

/-- Calls go on with the endpoints that are there, and open more. -/
theorem endpoints_foldl_apply (calls : List Call) (s : ServiceDraft) :
    (calls.foldl apply s).endpoints =
      (s.endpoints.mapIdx fun i e => (calls.filterMap (Call.for? i)).foldl .apply e) ++
        openedFrom s.endpoints.length calls := by
  induction calls generalizing s with
  | nil =>
      simp only [List.filterMap_nil, List.foldl_nil, openedFrom, List.append_nil]
      exact List.ext_getElem? fun i => by simp
  | cons call rest ih =>
      rw [List.foldl_cons, ih]
      cases call with
      | docs text => rfl
      | auth method =>
          cases method with
          | none => rfl
          | some a =>
              rw [apply, Option.elim_some, endpoints_addAuth]
              rfl
      | endpoint name http =>
          have fresh : EndpointDraft.new name http = .declaredBy name http [] := rfl
          rw [apply, addEndpoint, List.mapIdx_append, fresh, List.length_append, List.append_assoc]
          simp only [List.mapIdx_cons, List.mapIdx_nil, EndpointDraft.foldl_apply_declaredBy]
          simp only [Nat.zero_add, List.nil_append, List.singleton_append, List.length_singleton]
          rfl
      | change number call =>
          have changed : (s.endpoints.modify number (·.apply call)).mapIdx
                (fun i e => (rest.filterMap (Call.for? i)).foldl .apply e) =
              s.endpoints.mapIdx fun i e =>
                ((.change number call :: rest).filterMap (Call.for? i)).foldl .apply e := by
            apply List.ext_getElem?
            intro i
            by_cases here : number = i
            · subst here
              simp [Call.for?, Function.comp_def]
            · simp [Call.for?, here]
          rw [apply, modifyAt, changed, List.length_modify]
          rfl

/-- What calls declare for the service itself. -/
theorem foldl_apply_eq (calls : List Call) (s : ServiceDraft) :
    (calls.foldl apply s).name = s.name ∧
      (calls.foldl apply s).docs = (calls.filterMap Call.docs?).getLast?.getD s.docs ∧
      (calls.foldl apply s).auth = s.auth ++ methodsOf calls := by
  induction calls using List.reverseRecOn with
  | nil => simp [methodsOf]
  | append_singleton calls call ih =>
      obtain ⟨name, docs, auth⟩ := ih
      rw [List.foldl_concat]
      cases call with
      | docs text => simp [apply, name, auth, methodsOf, Call.docs?, Call.auth?]
      | auth method =>
          cases method with
          | none => simp [apply, name, docs, auth, methodsOf, Call.docs?, Call.auth?]
          | some a =>
              by_cases required : a.isRequired = true
              · simp [apply, addAuth, required, name, docs, auth, methodsOf, Call.docs?,
                  Call.auth?, Option.filter]
              · simp [apply, addAuth, required, name, docs, auth, methodsOf, Call.docs?,
                  Call.auth?, Option.filter]
      | endpoint _ _ =>
          simp [apply, addEndpoint, name, docs, auth, methodsOf, Call.docs?, Call.auth?]
      | change _ _ => simp [apply, modifyAt, name, docs, auth, methodsOf, Call.docs?, Call.auth?]

theorem ofCalls_eq (name : String) (calls : List Call) :
    ofCalls name calls = ⟨name, docsOf calls, methodsOf calls, opened calls⟩ := by
  obtain ⟨sameName, docs, auth⟩ := foldl_apply_eq calls (new name)
  have endpoints := endpoints_foldl_apply calls (new name)
  rw [ofCalls]
  generalize calls.foldl apply (new name) = s at sameName docs auth endpoints
  obtain ⟨_, _, _, _⟩ := s
  simp only at sameName docs auth endpoints
  subst sameName docs auth endpoints
  rfl

/-! ## Building -/

/-- The error that is reported: that of the first endpoint whose name is taken by one before it or
that is faulty itself. -/
def Reports (name : String) (service : List Auth) (endpoints : List EndpointDraft)
    (err : Error) : Prop :=
  ∃ before e after, endpoints = before ++ e :: after ∧ (before.map (·.name)).Nodup ∧
    (∀ b ∈ before, ¬b.IsFaulty service) ∧
    ((e.name ∈ before.map (·.name) ∧ err = .config (.repeatedEndpoint name e.name)) ∨
      (e.name ∉ before.map (·.name) ∧ ∃ cause, e.Fault service cause ∧
        err = .within ("endpoint " ++ name ++ "." ++ e.name) cause))

/-- One endpoint: its name is taken, or it is faulty, or a later one is to blame. -/
theorem buildAll_cons_eq_error_iff {s : ServiceDraft} {seen : List String} {d : EndpointDraft}
    {rest : List EndpointDraft} {err : Error} :
    s.buildAll seen (d :: rest) = .error err ↔
      (d.name ∈ seen ∧ err = .config (.repeatedEndpoint s.name d.name)) ∨
        (d.name ∉ seen ∧ ((∃ cause, d.Fault s.auth cause ∧
          err = .within ("endpoint " ++ s.name ++ "." ++ d.name) cause) ∨
          (¬d.IsFaulty s.auth ∧ s.buildAll (d.name :: seen) rest = .error err))) := by
  by_cases present : d.name ∈ seen
  · rw [buildAll, if_pos (List.contains_iff_mem.mpr present)]
    simp only [present, true_and, not_true, false_and, or_false]
    exact ⟨fun failed => (Except.error.inj failed).symm, fun same => congrArg _ same.symm⟩
  · rw [buildAll, if_neg (present ∘ List.contains_iff_mem.mp)]
    simp only [present, false_and, not_false_iff, true_and, false_or]
    change (labelled _ (d.build s.auth) >>= fun b => s.buildAll (d.name :: seen) rest >>=
      fun more => pure (b :: more)) = _ ↔ _
    have later (b : EndpointDescription) :
        (s.buildAll (d.name :: seen) rest >>= fun more => pure (b :: more)) = .error err ↔
          s.buildAll (d.name :: seen) rest = .error err := by
      rw [bind_eq_error_iff]
      refine or_iff_left ?_
      rintro ⟨more, -, impossible⟩
      cases impossible
    rw [bind_eq_error_iff, labelled_eq_error_iff, EndpointDraft.isFaulty_iff, not_not]
    simp only [EndpointDraft.build_eq_error_iff, labelled_eq_ok_iff, later, exists_and_right]
    rfl

/-- A service is not built exactly if one of its endpoints is to blame: those before it have names
of their own and no fault. -/
theorem buildAll_eq_error_iff {s : ServiceDraft} {seen : List String}
    {drafts : List EndpointDraft} {err : Error} :
    s.buildAll seen drafts = .error err ↔
      ∃ before e after, drafts = before ++ e :: after ∧
        ((before.map (·.name)).Nodup ∧ ∀ n ∈ before.map (·.name), n ∉ seen) ∧
        (∀ b ∈ before, ¬b.IsFaulty s.auth) ∧
        (((e.name ∈ before.map (·.name) ∨ e.name ∈ seen) ∧
            err = .config (.repeatedEndpoint s.name e.name)) ∨
          (¬(e.name ∈ before.map (·.name) ∨ e.name ∈ seen) ∧ ∃ cause, e.Fault s.auth cause ∧
            err = .within ("endpoint " ++ s.name ++ "." ++ e.name) cause)) := by
  induction drafts generalizing seen with
  | nil => simp [buildAll]
  | cons d rest ih =>
      have moved (before : List EndpointDraft) (e : EndpointDraft) :
          e.name ∈ before.map (·.name) ∨ e.name ∈ d.name :: seen ↔
            e.name ∈ (d :: before).map (·.name) ∨ e.name ∈ seen := by
        rw [List.map_cons, List.mem_cons, List.mem_cons, or_left_comm, or_assoc]
      have nothing : (([] : List EndpointDraft).map (·.name)).Nodup ∧
          ∀ n ∈ ([] : List EndpointDraft).map (·.name), n ∉ seen :=
        ⟨List.nodup_nil, List.forall_mem_nil _⟩
      rw [buildAll_cons_eq_error_iff]
      constructor
      · rintro (⟨taken, rfl⟩ | ⟨free, fault | ⟨sound, failed⟩⟩)
        · exact ⟨[], d, rest, rfl, nothing, List.forall_mem_nil _, .inl ⟨.inr taken, rfl⟩⟩
        · refine ⟨[], d, rest, rfl, nothing, List.forall_mem_nil _, .inr ⟨?_, fault⟩⟩
          exact fun taken => free (taken.resolve_left List.not_mem_nil)
        · obtain ⟨before, e, after, rfl, fresh, clean, blame⟩ := ih.mp failed
          refine ⟨d :: before, e, after, rfl, ?_, List.forall_mem_cons.mpr ⟨sound, clean⟩, ?_⟩
          · exact (Route.nodup_cons_unseen_iff free).mpr fresh
          · rwa [moved] at blame
      · rintro ⟨before, e, after, split, fresh, clean, blame⟩
        cases before with
        | nil =>
            obtain ⟨rfl, rfl⟩ := List.cons.inj split
            rw [List.map_nil, or_iff_right List.not_mem_nil] at blame
            exact blame.imp_right (And.imp_right .inl)
        | cons b before =>
            obtain ⟨rfl, rfl⟩ := List.cons.inj split
            have free : d.name ∉ seen := fresh.2 _ List.mem_cons_self
            obtain ⟨sound, clean⟩ := List.forall_mem_cons.mp clean
            refine .inr ⟨free, .inr ⟨sound, ih.mpr ⟨before, e, after, rfl, ?_, clean, ?_⟩⟩⟩
            · exact (Route.nodup_cons_unseen_iff free).mp fresh
            · rwa [moved]

theorem build_eq_error_iff {s : ServiceDraft} {err : Error} :
    s.build = .error err ↔ Reports s.name s.auth s.endpoints err := by
  have all := @buildAll_eq_error_iff s [] s.endpoints err
  simp only [List.not_mem_nil, not_false_iff, implies_true, and_true, or_false] at all
  rw [build, bind_eq_error_iff, all]
  refine or_iff_left ?_
  rintro ⟨built, -, impossible⟩
  cases impossible

/-- A service is built exactly if no two endpoints have one name and none is faulty. -/
theorem succeeds_build_iff {s : ServiceDraft} :
    Succeeds s.build ↔
      (s.endpoints.map (·.name)).Nodup ∧ ∀ e ∈ s.endpoints, ¬e.IsFaulty s.auth := by
  have each : (∃ built, List.Forall₂ (fun d b => d.build s.auth = .ok b) s.endpoints built) ↔
      ∀ e ∈ s.endpoints, ¬e.IsFaulty s.auth := by
    simp only [EndpointDraft.isFaulty_iff, not_not]
    rw [← succeeds_mapM_iff]
    exact exists_congr fun built => mapM_eq_ok_iff.symm
  rw [← each, Succeeds]
  simp only [build_eq_ok_iff]
  constructor
  · rintro ⟨_, distinct, built, results, -⟩
    exact ⟨distinct, built, results⟩
  · rintro ⟨distinct, built, results⟩
    exact ⟨_, distinct, built, results, rfl⟩

/-- A service that is put together by calls is not built exactly if two endpoints have one name
or an endpoint is faulty, and the error is that of the first such endpoint in the order of
opening. Otherwise it has what the calls declare: its endpoints in that order, each with all its
arguments as declared, credentials first and the kinds of the others settled. -/
theorem build_exact (name : String) (calls : List Call) :
    ((∃ err, (ofCalls name calls).build = .error err) ↔
        ¬((opened calls).map (·.name)).Nodup ∨
          ∃ e ∈ opened calls, e.IsFaulty (methodsOf calls)) ∧
      (∀ err, (ofCalls name calls).build = .error err ↔
        Reports name (methodsOf calls) (opened calls) err) ∧
      ∀ service, (ofCalls name calls).build = .ok service →
        service.name = name ∧ service.docs = docsOf calls ∧ service.auth = methodsOf calls ∧
          List.Forall₂ EndpointDraft.IsBuilt (opened calls) service.endpoints := by
  rw [ofCalls_eq]
  refine ⟨?_, fun err => build_eq_error_iff, fun service built => ?_⟩
  · have success := @succeeds_build_iff ⟨name, docsOf calls, methodsOf calls, opened calls⟩
    have failure := not_congr success
    rw [not_and_or, not_forall] at failure
    simpa [not_succeeds_iff] using failure
  · obtain ⟨-, endpoints, results, rfl⟩ := build_eq_ok_iff.mp built
    exact ⟨rfl, rfl, rfl, results.imp fun e b => EndpointDraft.isBuilt_of_build⟩

end ServiceDraft

end ApiCompiler
