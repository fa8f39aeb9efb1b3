import ApiCompiler.Proofs.Convert.Faults
import ApiCompiler.Proofs.Project.Acceptance

/-!
# What targets report of a valid module

For every function of a target that walks through a module: what it can report if the module is
valid. References may be wrong, since validation does not look at them, and the name of an
argument or a route may be refused. Nothing that validation looks at is reported again.
-/

namespace ApiCompiler

open Fallible

variable {p : Project} {m : Module}

theorem Project.blames_getModule_bind {α : Type} {P : Error → Prop} {name : String}
    {next : Module → Except Error α} (found : p.module? name = some m)
    (blames : Blames P (next m)) : Blames P (p.getModule name >>= next) := by
  rw [getModule, found]
  exact blames

/-! ## TypeScript -/

namespace TypeScript

variable (s : Scope)

theorem blames_type (reference : String) :
    Emit.Blames Error.IsReferenceFault (s.type reference) :=
  .convert (fun _ => id) _ typeNeeds reference

theorem blames_descriptor (reference : String) :
    Emit.Blames Error.IsReferenceFault (s.descriptor reference) :=
  .convert (fun _ => id) _ _ reference

theorem blames_typeAndDescriptor {α : Type} (label reference : String) (f : String → String → α) :
    Emit.Blames Error.IsReferenceFault (Emit.within label do
      return f (← s.type reference) (← s.descriptor reference)) :=
  ((blames_type s reference).bind fun _ => (blames_descriptor s reference).bind_pure _).within _

theorem blames_runtime (symbol : String) :
    Emit.Blames Error.IsReferenceFault (runtime symbol) :=
  .of_reads (reads_runtime symbol) .empty

theorem blames_union (name : String) (variants : List (String × String)) :
    Emit.Blames Error.IsReferenceFault (union s name variants) :=
  (Emit.Blames.mapM fun e _ => blames_typeAndDescriptor s _ e.2 fun type d => (e.1, type, d)).bind
    fun _ => (blames_runtime "UnionType").bind_pure _

theorem blames_baseType (t : TypeDecl) : Emit.Blames Error.IsReferenceFault (baseType s t) := by
  unfold baseType
  cases t.extends_ with
  | none => exact .pure none
  | some base => exact blames_typeAndDescriptor s _ base fun type d => some (type, d)

theorem blames_struct (name : String) (t : TypeDecl) :
    Emit.Blames Error.IsReferenceFault (struct s name t) :=
  (Emit.Blames.mapM fun e _ => blames_typeAndDescriptor s _ e.2.type fun type d =>
    (propertyName e.1, type, d)).bind fun _ =>
    (blames_baseType s t).bind fun _ => (blames_runtime "StructType").bind_pure _

theorem blames_typeDeclaration (length : Int) (name : String) {t : TypeDecl}
    (valid : Succeeds (t.validate none)) :
    Emit.Blames Error.IsReferenceFault (typeDeclaration length s name t) := by
  refine .ofExcept_bind valid fun _ _ => .bind_pure ?_ _
  unfold typeBody
  cases t.shape with
  | enum => exact .of_reads (reads_enumeration length name _) s.project
  | union => exact blames_union s name _
  | struct => exact blames_struct s name t

theorem blames_errorDeclaration (length : Int) (name : String) (e : ErrorDecl) :
    Emit.Blames Error.IsReferenceFault (errorDeclaration length s name e) :=
  (Emit.Blames.mapM fun f _ => ((blames_type s f.2.type).within _).bind_pure _).bind fun _ =>
    (blames_runtime "ServiceException").bind_pure _

theorem blames_resultType (name : String) (e : Endpoint) :
    Emit.Blames Error.IsReferenceFault (resultType s name e) :=
  .ite (.pure "void") ((blames_type s e.result).within _)

theorem blames_signature (isAsync : Bool) (name : String) (e : Endpoint) :
    Emit.Blames Error.IsReferenceFault (signature s isAsync name e) :=
  (Emit.Blames.of_reads (reads_credentialParams s e) s.project).bind fun _ =>
    (Emit.Blames.mapM fun a _ => ((blames_type s a.2.type).within _).bind_pure _).bind fun _ =>
    (blames_resultType s name e).bind_pure _

theorem blames_serviceInterface (length : Int) (isAsync : Bool) :
    Emit.Blames Error.IsReferenceFault (serviceInterface length s isAsync) :=
  (Emit.Blames.mapM fun e _ => blames_signature s isAsync e.1 e.2).bind fun _ =>
    (Emit.Blames.of_reads (reads_client s isAsync _) s.project).bind_pure _

theorem blames_resultEntry (e : Endpoint) :
    Emit.Blames Error.IsReferenceFault (resultEntry s e) :=
  .ite (.pure id) (((blames_descriptor s e.result).within _).bind_pure _)

theorem blames_endpointEntry (name : String) {e : Endpoint}
    (resolves : Succeeds e.resolveArguments) :
    Emit.Blames Error.IsReferenceFault (endpointEntry s name e) :=
  .ofExcept_bind resolves fun _ _ => (blames_resultEntry s e).bind fun _ =>
    (Emit.Blames.mapM fun a _ => ((blames_descriptor s a.type).within _).bind_pure _).bind
      fun args => (Emit.Blames.of_reads (reads_argumentEntries args) s.project).bind_pure _

theorem blames_servicePieces (length : Int) (valid : s.module.IsValid) :
    Emit.Blames Error.IsReferenceFault (servicePieces length s) := by
  refine .ite (.pure []) (.bind ?interfaces fun _ => .bind_pure ?descriptor _)
  case interfaces => exact .mapM fun isAsync _ => blames_serviceInterface s length isAsync
  case descriptor =>
    refine (blames_runtime "Service").bind fun _ => .bind_pure (.mapM fun e mem => ?_) _
    exact (blames_endpointEntry s e.1 (valid.endpoints e mem).resolves).within _

theorem blames_pieces (length : Int) (valid : s.module.IsValid) :
    Emit.Blames Error.IsReferenceFault (pieces length s) := by
  refine .bind (.mapM fun t mem => ?_) fun _ => .bind (.mapM fun e _ => ?_) fun _ =>
    (blames_servicePieces s length valid).bind_pure _
  · exact (blames_typeDeclaration s length t.1 (valid.types t mem)).within _
  · exact (blames_errorDeclaration s length e.1 e.2).within _

theorem blames_renderModule {name : String} (settings : Settings) (found : p.module? name = some m)
    (valid : m.IsValid) : Blames Error.IsReferenceFault (renderModule p name settings) := by
  apply Project.blames_getModule_bind found
  apply FailsOnly.bind
  · exact blames_pieces ⟨p, name, m⟩ _ valid _
  · exact fun _ _ => FailsOnly.pure _

end TypeScript

/-! ## Python -/

namespace Python

/-- What can be wrong with a valid module for the Python target. -/
def IsFault (e : Error) : Prop :=
  e.IsReferenceFault ∨ ∃ argument endpoint, e = .argument (.shadowsBuiltin argument endpoint)

variable (c : Converter String)

theorem blames_hint (reference : String) : Emit.Blames IsFault (hint c reference) :=
  .convert (fun _ => .inl) c needsOf reference

theorem blames_fieldsOf (fields : Option (OrderedMap ApiCompiler.Field)) :
    Emit.Blames IsFault (fieldsOf c fields) :=
  .mapM fun e _ => ((blames_hint c e.2.type).within _).bind_pure _

theorem blames_errorClass (name : String) {e : ErrorDecl}
    (known : e.effectiveCode.isKnown = true) :
    Emit.Blames IsFault (errorClass c name e) := by
  obtain ⟨base, found⟩ := Option.isSome_iff_exists.mp (isSome_errorBase? known)
  simp only [errorClass, found]
  exact (blames_fieldsOf c e.fields).bind fun _ => (Emit.Blames.needModule _).bind fun _ =>
    (Emit.Blames.need _ _).bind_pure _

theorem blames_baseHints (t : TypeDecl) : Emit.Blames IsFault (baseHints c t) := by
  unfold baseHints
  cases t.extends_ with
  | none => exact .pure []
  | some base => exact ((blames_hint c base).within _).bind_pure _

theorem blames_typeDeclaration (name : String) (t : TypeDecl) :
    Emit.Blames IsFault (typeDeclaration c name t) := by
  unfold typeDeclaration
  cases t.shape with
  | enum => exact (Emit.Blames.needModule _).bind_pure _
  | union =>
      refine .bind (.mapM fun e _ => ?_) fun _ => (Emit.Blames.needModule _).bind fun _ =>
        (Emit.Blames.needModule _).bind_pure _
      exact ((blames_hint c e.2).within _).bind_pure _
  | struct =>
      exact (blames_fieldsOf c t.fields).bind fun _ => (Emit.Blames.needModule _).bind fun _ =>
        (blames_baseHints c t).bind_pure _

theorem blames_signatureArgument (endpoint name : String) (a : Argument) :
    Emit.Blames IsFault (signatureArgument c endpoint name a) :=
  .ite (.fail (.inr ⟨name, endpoint, rfl⟩)) (((blames_hint c a.type).within _).bind_pure _)

theorem blames_endpointMethod (m : Module) (isAsync : Bool) (name : String) (e : Endpoint) :
    Emit.Blames IsFault (endpointMethod c m isAsync name e) := by
  refine (Emit.Blames.need _ _).bind fun _ =>
    (Emit.Blames.of_reads (reads_authDecorators e.auth) c.project).bind fun _ =>
    (Emit.Blames.of_reads (reads_credentialParams m e) c.project).bind fun _ =>
    (Emit.Blames.mapM fun a _ => blames_signatureArgument c name a.1 a.2).bind fun _ =>
    .bind_pure ?_ _
  exact .ite (.pure "None") ((blames_hint c e.result).within _)

theorem blames_serviceClass (m : Module) (isAsync : Bool) :
    Emit.Blames IsFault (serviceClass c m isAsync) :=
  (Emit.Blames.needModule _).bind fun _ => (Emit.Blames.need _ _).bind fun _ =>
    (Emit.Blames.of_reads (reads_authDecorators m.auth) c.project).bind fun _ =>
    (Emit.Blames.mapM fun e _ => (blames_endpointMethod c m isAsync e.1 e.2).within _).bind_pure _

theorem blames_moduleDeclarations (valid : m.IsValid) :
    Emit.Blames IsFault (moduleDeclarations c m) := by
  refine .bind (.mapM fun e mem => ?_) fun _ => .bind (.mapM fun t mem => ?_) fun _ =>
    .bind_pure ?_ _
  · exact ((blames_errorClass c e.1 (valid.errors e mem)).within _).bind_pure _
  · refine .within (.ofExcept_bind (valid.types t mem) fun _ _ => ?_) _
    exact blames_typeDeclaration c t.1 t.2
  · refine .ite (.pure []) (.mapM fun isAsync _ => ?_)
    exact (blames_serviceClass c m isAsync).bind_pure _

theorem blames_renderFile {modules : List String} (indent : Nat) (source : String → String)
    (valid : ∀ name ∈ modules, ∃ m, p.module? name = some m ∧ m.IsValid) :
    Blames IsFault (renderFile p modules indent source) := by
  rw [renderFile, new_eq_ok]
  have declared : Emit.Blames IsFault
      (fileDeclarations (converterOn (modules.headD "") source p) modules) := by
    refine .mapM fun name mem => ?_
    obtain ⟨m, found, valid⟩ := valid name mem
    rw [namedDeclarations_of_found found]
    exact (blames_moduleDeclarations _ valid).within _
  exact FailsOnly.bind (x := fileDeclarations (converterOn (modules.headD "") source p) modules _)
    (declared _) fun _ _ => FailsOnly.pure _

end Python

/-! ## Go -/

namespace Go

variable (s : Scope)

theorem isSome_codeConstant? {code : ErrorCode} (known : code.isKnown = true) :
    (codeConstant? code).isSome = true := by
  cases code with
  | other name => exact nomatch known
  | _ => rfl

theorem blames_type (reference : String) :
    Emit.Blames Error.IsReferenceFault (s.type reference) :=
  .convert (fun _ => id) _ typeNeeds reference

theorem blames_ref (reference : String) : Emit.Blames Error.IsReferenceFault (s.ref reference) :=
  .ofExcept (Converter.blames_convert _ reference)

theorem blames_fieldsOf (fields : Option (OrderedMap ApiCompiler.Field)) :
    Emit.Blames Error.IsReferenceFault (fieldsOf s fields) :=
  .mapM fun e _ => ((blames_type s e.2.type).within _).bind_pure _

theorem blames_union (name : String) (t : TypeDecl) :
    Emit.Blames Error.IsReferenceFault (union s name t) :=
  .bind_pure (.mapM fun e _ => ((blames_type s e.2).within _).bind_pure _) _

theorem blames_baseType (t : TypeDecl) : Emit.Blames Error.IsReferenceFault (baseType s t) := by
  unfold baseType
  cases t.extends_ with
  | none => exact .pure none
  | some base => exact ((blames_type s base).within _).bind_pure some

theorem blames_typeDeclarations (name : String) {t : TypeDecl}
    (valid : Succeeds (t.validate none)) :
    Emit.Blames Error.IsReferenceFault (typeDeclarations s name t) := by
  refine .ofExcept_bind valid fun _ _ => ?_
  cases t.shape with
  | enum => exact .pure _
  | union => exact blames_union s name t
  | struct =>
      exact (blames_fieldsOf s t.fields).bind fun _ => (blames_baseType s t).bind_pure _

theorem blames_errorDeclarations (name : String) {e : ErrorDecl}
    (known : e.effectiveCode.isKnown = true) :
    Emit.Blames Error.IsReferenceFault (errorDeclarations s name e) := by
  obtain ⟨code, found⟩ := Option.isSome_iff_exists.mp (isSome_codeConstant? known)
  simp only [errorDeclarations, found]
  exact (blames_fieldsOf s e.fields).bind fun _ => (Emit.Blames.needModule _).bind_pure _

theorem blames_endpointMethod (name : String) (e : Endpoint) :
    Emit.Blames Error.IsReferenceFault (endpointMethod s name e) := by
  refine (Emit.Blames.of_reads (reads_credentialParams s e) s.project).bind fun _ =>
    (Emit.Blames.mapM fun a _ => ((blames_type s a.2.type).within _).bind_pure _).bind fun _ =>
    .bind_pure ?_ _
  exact .ite (.pure none) (((blames_type s e.result).within _).bind_pure some)

theorem blames_endpointCalls (name : String) {e : Endpoint}
    (resolves : Succeeds e.resolveArguments) :
    Emit.Blames Error.IsReferenceFault (endpointCalls s name e) := by
  refine .ofExcept_bind (succeeds_labelled_iff.mpr resolves) fun _ _ =>
    (Emit.Blames.mapM fun a _ => ((blames_ref s a.type).within _).bind_pure _).bind fun _ =>
    .bind_pure ?_ _
  exact .ite (.pure []) (((blames_ref s e.result).within _).bind_pure _)

theorem blames_serviceDeclarations (valid : s.module.IsValid) :
    Emit.Blames Error.IsReferenceFault (serviceDeclarations s) := by
  refine .ite (.pure []) (.bind ?interface fun _ => .bind_pure ?description _)
  case interface =>
    exact (Emit.Blames.needModule _).bind fun _ =>
      .bind_pure (.mapM fun e _ => blames_endpointMethod s e.1 e.2) _
  case description =>
    refine (Emit.Blames.needModule _).bind fun _ => (Emit.Blames.needModule _).bind fun _ =>
      .bind_pure (.mapM fun e mem => ?_) _
    exact blames_endpointCalls s e.1 (valid.endpoints e mem).resolves

theorem blames_moduleDeclarations (valid : s.module.IsValid) :
    Emit.Blames Error.IsReferenceFault (moduleDeclarations s) := by
  refine .bind (.mapM fun t mem => ?_) fun _ => .bind (.mapM fun e mem => ?_) fun _ =>
    (blames_serviceDeclarations s valid).bind_pure _
  · exact (blames_typeDeclarations s t.1 (valid.types t mem)).within _
  · exact (blames_errorDeclarations s e.1 (valid.errors e mem)).within _

/-- What can be wrong with a valid module for the Go target. -/
def IsFault (e : Error) : Prop := e.IsReferenceFault ∨ e = .unformattable

theorem blames_refuse {α : Type} (file : SourceFile) :
    Blames IsFault (file.refuse : Except Error α) := by
  apply Blames.labelled
  exact Blames.error (.inr rfl)

theorem blames_checkComments (documentation : List Text.RawText) (file : SourceFile) :
    Blames IsFault (file.checkComments documentation) := by
  unfold SourceFile.checkComments
  split
  · exact FailsOnly.ok _
  · exact blames_refuse file

theorem blames_format (file : SourceFile) : Blames IsFault file.format := by
  unfold SourceFile.format
  split
  · exact FailsOnly.ok _
  · exact blames_refuse file

theorem blames_renderModule {name : String} (settings : Settings)
    (found : p.module? name = some m) (valid : m.IsValid) :
    Blames IsFault (renderModule p name settings) := by
  apply FailsOnly.bind
  · apply Project.blames_getModule_bind found
    apply FailsOnly.bind
    · exact Blames.mono (blames_moduleDeclarations ⟨p, name, m, _⟩ valid _) fun _ => .inl
    · exact fun _ _ => blames_checkComments _ _
  · exact fun file _ => blames_format file

end Go

/-! ## Descriptions -/

namespace ModuleDescription

/-- What can be wrong with a valid module for its description. -/
def IsFault (e : Error) : Prop :=
  e.IsReferenceFault ∨ (∃ flaw, e = .route flaw) ∨
    ∃ endpoint name, e = .argument (.reservedName endpoint name)

theorem blames_convert {α : Type} (c : Converter α) (reference : String) :
    Blames IsFault (c.convert reference).result :=
  (c.blames_convert reference).mono fun _ => .inl

end ModuleDescription

namespace ServiceDraft

open ModuleDescription (IsFault blames_convert)

variable (c : Converter TypeRef)

theorem blames_describeArguments (endpoint : String) (args : List (String × Argument)) :
    Blames IsFault (describeArguments c endpoint args) := by
  refine FailsOnly.mapM fun a _ => ?_
  dsimp only
  split
  · exact Blames.error (.inr (.inr ⟨endpoint, _, rfl⟩))
  · apply FailsOnly.bind
    · exact (blames_convert c a.2.type).labelled _
    · exact fun _ _ => FailsOnly.pure _

theorem blames_describeEndpoint (m : Module) (name : String) (e : Endpoint) :
    Blames IsFault (describeEndpoint c m name e) := by
  apply FailsOnly.bind
  · exact blames_describeArguments c name e.argumentList
  · intro args _
    apply FailsOnly.bind
    · unfold describeResult
      split
      · exact FailsOnly.pure _
      · exact FailsOnly.map ((blames_convert c e.result).labelled _) _
    · exact fun _ _ => FailsOnly.pure _

/-- Only the route of a valid endpoint can keep its draft from being built. -/
theorem blames_build {e : Endpoint} {name : String} {draft : EndpointDraft} (valid : e.IsValid)
    (described : describeEndpoint c m name e = .ok draft) :
    Blames IsFault (draft.build (m.auth.toList.filter Auth.isRequired)) := by
  obtain ⟨args, result, each, -, rfl⟩ := describeEndpoint_eq_ok_iff.mp described
  intro cause failed
  have sound {route : Route} (read : Route.parse e.route.render = .ok route) :
      (endpointDraft m name e args result).IsSound (m.auth.toList.filter Auth.isRequired) route
        (credentialArguments m e) args :=
    isSound_of_read read (names_of_describes each) (isPlain_of_describes each valid.kinds)
  cases EndpointDraft.build_eq_error_iff.mp failed with
  | route refused =>
      obtain ⟨flaw, rfl⟩ := Route.exists_flaw_of_parse refused
      exact .inr (.inl ⟨flaw, rfl⟩)
  | repeated read split distinct again =>
      have nodup := (sound read).distinct_args
      rw [split, List.nodup_append'] at nodup
      exact absurd List.mem_cons_self (nodup.2.2 again)
  | foreign read distinct split plain claims =>
      have plain := (sound read).not_isForeign
      rw [split] at plain
      exact absurd claims (plain _ (List.mem_append_right _ List.mem_cons_self))
  | kinds read distinct plain refused =>
      -- the route may have fewer placeholders, but there are as many bodies as before
      have same : (endpointDraft m name e args result).declared.map Endpoint.signature =
          e.argumentList.map Endpoint.signature := by
        rw [← signatures_of_describes each, EndpointDraft.declared, ← EndpointDraft.others,
          (sound read).others_eq]
        exact List.map_map
      obtain ⟨_, resolved⟩ := valid.resolves
      have single := (Endpoint.resolve_eq_ok_iff.mp resolved).2.1
      rw [← Endpoint.bodyCount_congr same] at single
      rw [Endpoint.resolve_eq] at refused
      split at refused
      · cases refused
        exact .inr (.inl ⟨_, rfl⟩)
      · rw [if_neg (Nat.not_lt.mpr single)] at refused
        cases refused
  | credentials read distinct plain settled required missing =>
      exact absurd ⟨required, missing⟩ (sound read).isCovered

theorem names_of_describeEndpoints {endpoints : List (String × Endpoint)}
    {drafts : List EndpointDraft}
    (described : List.Forall₂ (fun e d => describeEndpoint c m e.1 e.2 = .ok d) endpoints drafts) :
    drafts.map (·.name) = endpoints.map (·.1) := by
  induction described with
  | nil => rfl
  | cons first _ ih => rw [List.map_cons, List.map_cons, ih, name_of_describeEndpoint first]

/-- Endpoints with distinct names are built one after the other. -/
theorem blames_buildAll {P : Error → Prop} (s : ServiceDraft) {seen : List String}
    {drafts : List EndpointDraft} (distinct : (drafts.map (·.name)).Nodup)
    (fresh : ∀ n ∈ drafts.map (·.name), n ∉ seen)
    (each : ∀ d ∈ drafts, Blames P (d.build s.auth)) :
    Blames P (s.buildAll seen drafts) := by
  induction drafts generalizing seen with
  | nil => exact FailsOnly.ok []
  | cons d rest ih =>
      have new : d.name ∉ seen := fresh _ List.mem_cons_self
      rw [buildAll, if_neg (new ∘ List.contains_iff_mem.mp)]
      rw [List.map_cons] at distinct fresh
      rw [List.forall_mem_cons] at each
      change Blames P (labelled _ (d.build s.auth) >>= fun b =>
        s.buildAll (d.name :: seen) rest >>= fun more => pure (b :: more))
      apply FailsOnly.bind
      · exact each.1.labelled _
      · intro b _
        have unseen := (Route.nodup_cons_unseen_iff new).mp ⟨distinct, fresh⟩
        apply FailsOnly.bind
        · exact ih unseen.1 unseen.2 each.2
        · exact fun _ _ => FailsOnly.pure _

theorem blames_ofModule {module : String} (found : p.module? module = some m) :
    Blames IsFault (ofModule p module) := by
  apply Project.blames_getModule_bind found
  apply FailsOnly.bind
  · exact FailsOnly.mapM fun e _ => blames_describeEndpoint _ m e.1 e.2
  · exact fun _ _ => FailsOnly.pure _

end ServiceDraft

theorem ServiceDescription.blames_ofModule {module : String} (found : p.module? module = some m)
    (valid : m.IsValid) : Blames ModuleDescription.IsFault (ofModule p module) := by
  apply FailsOnly.bind
  · exact ServiceDraft.blames_ofModule found
  · intro draft drafted
    obtain ⟨m', again, endpoints, described, rfl⟩ := ServiceDraft.ofModule_eq_ok_iff.mp drafted
    cases found.symm.trans again
    apply FailsOnly.bind
    · apply ServiceDraft.blames_buildAll
      · rw [ServiceDraft.names_of_describeEndpoints _ described]
        exact Module.nodup_defined m.endpoints
      · exact fun _ _ => List.not_mem_nil
      · intro d mem
        obtain ⟨e, inside, described⟩ := (mem_of_forall₂ described).2 d mem
        exact ServiceDraft.blames_build _ (valid.endpoints e inside) described
    · exact fun _ _ => FailsOnly.pure _

namespace ModuleDescription

theorem blames_describeFields (c : Converter TypeRef) (fields : Option (OrderedMap Field)) :
    Blames IsFault (describeFields c fields) := by
  refine FailsOnly.mapM fun f _ => ?_
  apply FailsOnly.bind
  · exact (blames_convert c f.2.type).labelled _
  · exact fun _ _ => FailsOnly.pure _

theorem blames_describeType (c : Converter TypeRef) (name : String) (t : TypeDecl) :
    Blames IsFault (describeType c name t) := by
  apply FailsOnly.bind
  · unfold describeBase
    cases t.extends_ with
    | none => exact FailsOnly.pure none
    | some base => exact FailsOnly.map ((blames_convert c base).labelled _) _
  · intro base _
    apply FailsOnly.bind
    · exact (blames_describeFields c t.fields).labelled _
    · intro fields _
      apply FailsOnly.bind
      · refine FailsOnly.mapM fun v _ => ?_
        apply FailsOnly.bind
        · exact (blames_convert c v.2).labelled _
        · exact fun _ _ => FailsOnly.pure _
      · exact fun _ _ => FailsOnly.pure _

theorem blames_describeService {module : String} (found : p.module? module = some m)
    (valid : m.IsValid) : Blames IsFault (describeService p module m) := by
  unfold describeService
  split
  · exact FailsOnly.pure none
  · exact FailsOnly.map (ServiceDescription.blames_ofModule found valid) some

theorem blames_ofModule {module : String} (found : p.module? module = some m)
    (valid : m.IsValid) : Blames IsFault (ofModule p module) := by
  apply Project.blames_getModule_bind found
  apply FailsOnly.bind
  · exact FailsOnly.mapM fun t _ => blames_describeType _ t.1 t.2
  · intro types _
    apply FailsOnly.bind
    · refine FailsOnly.mapM fun e _ => ?_
      apply FailsOnly.bind
      · exact (blames_describeFields _ e.2.fields).labelled _
      · exact fun _ _ => FailsOnly.pure _
    · intro errors _
      apply FailsOnly.bind
      · exact blames_describeService found valid
      · exact fun _ _ => FailsOnly.pure _

theorem blames_ofProject (valid : ∀ m ∈ p.moduleList, m.2.IsValid) :
    Blames IsFault (ofProject p) := by
  refine FailsOnly.mapM fun name mem => ?_
  obtain ⟨m, found⟩ := Project.mem_moduleNames_iff.mp mem
  have inside := Project.module?_eq_some_iff.mp found
  exact (blames_ofModule found (valid _ inside)).labelled _

end ModuleDescription

end ApiCompiler
