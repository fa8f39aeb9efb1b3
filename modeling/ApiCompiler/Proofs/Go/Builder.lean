import ApiCompiler.Proofs.Go.Script
import ApiCompiler.Proofs.Module.Valid

/-!
# Executing a description

What the statements of a description do: expressions are evaluated from left to right,
functions of packages make types and authentications, and methods change the service under
construction. The endpoint that a call returns is the one that was added last.
-/

namespace ApiCompiler.Go.Script

open Text

/-! ## Values -/

/-- The value of an expression. Functions and methods are members of what they belong to. -/
inductive Value where
  | text (s : String)
  | type (t : TypeRef)
  | auth (a : Auth)
  | kind (k : ParamKind)
  | package (name : String)
  | service
  | endpoint
  | member (owner : Value) (field : String)
  | outcome (result : Except Error ServiceDescription)

namespace Value

/-- The variables and constants of packages. -/
def constants : List ((String × String) × Value) :=
  [(("describe", "Credentials"), type .credentials), (("cytonic", "KindAuth"), kind .auth),
    (("cytonic", "KindBody"), kind .body), (("cytonic", "KindCookie"), kind .cookie),
    (("cytonic", "KindHeader"), kind .header), (("cytonic", "KindPath"), kind .path),
    (("cytonic", "KindQuery"), kind .query)]

/-- What a value has under a name. -/
def select : Value → String → Value
  | package name, field => (constants.lookup (name, field)).getD (member (package name) field)
  | owner, field => member owner field

/-- The type that a value is. -/
def type? : Value → Option TypeRef
  | type t => some t
  | _ => none

/-- The result of building a service. -/
def outcome? : Value → Option (Except Error ServiceDescription)
  | outcome result => some result
  | _ => none

end Value

/-- The functions of packages that make values. -/
def construct : String → String → List Value → Option Value
  | "describe", "Builtin", .text name :: params =>
    (params.mapM Value.type?).map fun types => .type (.builtin name types)
  | "describe", "Ref", [.text module, .text name] => some (.type (.custom module name))
  | "cytonic", "OAuth2Bearer", [.text headerName] => some (.auth (.oauth2Bearer headerName))
  | "cytonic", "BasicAuth", [] => some (.auth .basic)
  | "cytonic", "NoAuth", [] => some (.auth .off)
  | _, _, _ => none

/-- The methods of a service under construction. -/
def callService : String → List Value → ServiceDraft → Option (Value × ServiceDraft)
  | "Docs", [.text docs], s => some (.service, { s with docs := docs })
  | "Auth", [.auth a], s => some (.service, s.addAuth a)
  | "Endpoint", [.text name, .text http], s => some (.endpoint, s.addEndpoint (.new name http))
  | "Build", [], s => some (.outcome s.build, s)
  | _, _, _ => none

/-- The methods of an endpoint under construction. -/
def changeEndpoint : String → List Value → Option (EndpointDraft → EndpointDraft)
  | "Docs", [.text docs] => some fun e => { e with docs := docs }
  | "Auth", [.auth a] => some (·.addAuth a)
  | "Arg", [.text name, .type t, .kind k] => some (·.addArg ⟨name, some k, t, "", none⟩)
  | "Returns", [.type t] => some fun e => { e with result := some t }
  | _, _ => none

/-- The service under construction, once there is one. -/
abbrev State := Option ServiceDraft

/-- A call of a function or a method. -/
def apply : Value → List Value → State → Option (Value × State)
  | .member (.package "describe") "NewServiceBuilder", [.text name], _ =>
    some (.service, some (.new name))
  | .member (.package package) function, args, s =>
    (construct package function args).map fun v => (v, s)
  | .member .service method, args, some s =>
    (callService method args s).map fun (v, s) => (v, some s)
  | .member .endpoint method, args, some s =>
    (changeEndpoint method args).map fun change => (.endpoint, some (s.modifyLast change))
  | _, _, _ => none

/-! ## Evaluation -/

mutual

/-- The value of an expression. -/
def eval (env : List (String × Value)) : Expr → State → Option (Value × State)
  | .text s, state => some (.text s, state)
  | .name s, state => (env.lookup s).map fun v => (v, state)
  | .member e field, state => (eval env e state).map fun (v, state) => (v.select field, state)
  | .call function args, state => (eval env function state).bind fun (f, state) =>
    (evalAll env args state).bind fun (vs, state) => apply f vs state

/-- The values of arguments. -/
def evalAll (env : List (String × Value)) : List Expr → State → Option (List Value × State)
  | [], state => some ([], state)
  | e :: rest, state => (eval env e state).bind fun (v, state) =>
    (evalAll env rest state).map fun (vs, state) => (v :: vs, state)

end

section

variable {env : List (String × Value)} {s next last : State}

theorem eval_member {e : Expr} {v : Value} (owner : eval env e s = some (v, next))
    (field : String) : eval env (.member e field) s = some (v.select field, next) := by
  rw [eval, owner]
  rfl

theorem eval_call {function : Expr} {args : List Expr} {f : Value} {vs : List Value}
    (called : eval env function s = some (f, next))
    (values : evalAll env args next = some (vs, last)) :
    eval env (.call function args) s = apply f vs last := by
  simp only [eval, called, Option.bind_some, values]

theorem evalAll_cons {e : Expr} {rest : List Expr} {v : Value} {vs : List Value}
    (first : eval env e s = some (v, next)) (others : evalAll env rest next = some (vs, last)) :
    evalAll env (e :: rest) s = some (v :: vs, last) := by
  simp only [evalAll, first, Option.bind_some, others, Option.map_some]

end

/-- The value that a body returns. -/
def execute : List (String × Value) → List Statement → State → Option Value
  | _, [], _ => none
  | env, .define name e :: rest, s => (eval env e s).bind fun (v, s) =>
    execute ((name, v) :: env) rest s
  | env, .evaluate e :: rest, s => (eval env e s).bind fun (_, s) => execute env rest s
  | env, .give e :: _, s => (eval env e s).map fun (v, _) => v

/-- The packages that a description imports. -/
def imports : List (String × Value) :=
  [("cytonic", .package "cytonic"), ("describe", .package "describe")]

/-- The description that the body of a function returns, or the error. A body that cannot be
read or executed returns nothing. -/
def describe (body : List BodyLine) : Option (Except Error ServiceDescription) :=
  (statements [] body).bind fun ss => (execute imports ss none).bind Value.outcome?

/-! ## Texts and their values -/

/-- The names that are known once the service is under construction. -/
def scope : List (String × Value) := ("b", .service) :: imports

/-- A text is an expression with a value, and evaluating it changes nothing. -/
def Denotes (text : String) (v : Value) : Prop :=
  ∃ e : Expr, scan text.toList = some e.tokens ∧ ∀ s, eval scope e s = some (v, s)

/-- Arguments as they are written. -/
def argumentText : List String → List Char
  | [] => []
  | [a] => a.toList
  | a :: b :: rest => a.toList ++ ',' :: ' ' :: argumentText (b :: rest)

/-- A call as it is written. -/
def callText (function : String) (args : List String) : List Char :=
  function.toList ++ '(' :: (argumentText args ++ [')'])

theorem denotes_quote (s : String) : Denotes (quote s) (.text s) := by
  refine ⟨.text s, ?_, fun state => by rw [eval]⟩
  rw [Expr.tokens]
  exact scan_quote s

theorem scan_blank {cs : List Char} {ts : List Token} (scanned : scan cs = some ts) :
    scan (' ' :: cs) = some ts :=
  scan_join scan_nil separates_blank scanned

theorem scan_argumentText {texts : List String} {es : List Expr}
    (each : List.Forall₂ (fun text e => scan text.toList = some e.tokens) texts es) :
    scan (argumentText texts) = some (Expr.tokensOf es) := by
  induction each with
  | nil => exact scan_nil
  | cons first others ih =>
      cases others with
      | nil => exact first
      | cons _ _ =>
          have joined := scan_join first (separates_mark (c := ',') (by decide)) (scan_blank ih)
          rw [List.append_assoc] at joined
          exact joined

theorem scan_callText {function : String} {ts : List Token} {texts : List String} {es : List Expr}
    (scanned : scan function.toList = some ts)
    (each : List.Forall₂ (fun text e => scan text.toList = some e.tokens) texts es) :
    scan (callText function texts) =
      some (ts ++ .mark '(' :: (Expr.tokensOf es ++ [.mark ')'])) := by
  have closed := scan_join (scan_argumentText each) (separates_mark (c := ')') (by decide)) scan_nil
  have opened := scan_join scanned (separates_mark (c := '(') (by decide)) closed
  rw [List.append_nil, List.append_assoc] at opened
  exact opened

/-- Arguments are read and evaluated one by one. -/
theorem exists_arguments {texts : List String} {vs : List Value}
    (each : List.Forall₂ Denotes texts vs) :
    ∃ es : List Expr, List.Forall₂ (fun text e => scan text.toList = some e.tokens) texts es ∧
      ∀ s, evalAll scope es s = some (vs, s) := by
  induction each with
  | nil => exact ⟨[], .nil, fun s => by rw [evalAll]⟩
  | cons first _ ih =>
      obtain ⟨e, scanned, value⟩ := first
      obtain ⟨es, others, values⟩ := ih
      exact ⟨e :: es, .cons scanned others, fun s => evalAll_cons (value s) (values s)⟩

/-- A call of a function that changes nothing. -/
theorem denotes_call (function : String) {text : String} {texts : List String} {f v : Value}
    {vs : List Value} (called : Denotes function f) (args : List.Forall₂ Denotes texts vs)
    (written : text.toList = callText function texts)
    (applied : ∀ s, apply f vs s = some (v, s)) : Denotes text v := by
  obtain ⟨e, scanned, value⟩ := called
  obtain ⟨es, each, values⟩ := exists_arguments args
  refine ⟨.call e es, ?_, fun s => ?_⟩
  · rw [written, scan_callText scanned each, Expr.tokens]
  · rw [eval_call (value s) (values s), applied]

/-- A package with one of its members. -/
theorem denotes_member (package field : String) {text : String}
    (scanned : scan text.toList = some [.name package, .mark '.', .name field])
    (known : scope.lookup package = some (.package package)) :
    Denotes text ((Value.package package).select field) := by
  refine ⟨.member (.name package) field, ?_, fun s => ?_⟩
  · rw [scanned, Expr.tokens, Expr.tokens]
    rfl
  · refine eval_member ?_ field
    rw [eval, known, Option.map_some]

theorem denotes_authExpression {a : Auth} (valid : a.IsValid) :
    Denotes (authExpression a) (.auth a) := by
  obtain ⟨method, headerName⟩ := a
  cases method with
  | oauth2Bearer =>
      refine denotes_call "cytonic.OAuth2Bearer" (denotes_member "cytonic" "OAuth2Bearer" rfl rfl)
        (.cons (denotes_quote headerName) .nil) ?_ fun s => rfl
      simp only [authExpression, String.toList_append]
      rfl
  | basic =>
      cases valid
      exact denotes_call "cytonic.BasicAuth" (denotes_member "cytonic" "BasicAuth" rfl rfl) .nil rfl
        fun s => rfl
  | none =>
      cases valid
      exact denotes_call "cytonic.NoAuth" (denotes_member "cytonic" "NoAuth" rfl rfl) .nil rfl
        fun s => rfl
  | other name => exact valid.elim

theorem denotes_kindConstant {k : ParamKind} (known : k = .auth ∨ k ∈ Endpoint.declarableKinds) :
    Denotes (kindConstant k) (.kind k) := by
  cases k with
  | other name => simp [Endpoint.declarableKinds] at known
  | auth => exact denotes_member "cytonic" "KindAuth" rfl rfl
  | body => exact denotes_member "cytonic" "KindBody" rfl rfl
  | cookie => exact denotes_member "cytonic" "KindCookie" rfl rfl
  | header => exact denotes_member "cytonic" "KindHeader" rfl rfl
  | path => exact denotes_member "cytonic" "KindPath" rfl rfl
  | query => exact denotes_member "cytonic" "KindQuery" rfl rfl

/-! ## Statements and their effects -/

/-- A text is the call of a method that changes an endpoint. -/
def Changes (call : String) (change : EndpointDraft → EndpointDraft) : Prop :=
  ∃ method args vs, scan call.toList = some (callTokens method args) ∧
    (∀ s, evalAll scope args s = some (vs, s)) ∧ changeEndpoint method vs = some change

/-- Lines are statements that turn one service under construction into another. -/
def Effects (lines : List BodyLine) (s s' : ServiceDraft) : Prop :=
  ∃ ss, (∀ rest, statements [] (lines ++ rest) = (statements [] rest).map (ss ++ ·)) ∧
    ∀ more, execute scope (ss ++ more) (some s) = execute scope more (some s')

namespace Effects

theorem nil (s : ServiceDraft) : Effects [] s s :=
  ⟨[], fun rest => by simp, fun more => rfl⟩

theorem append {lines more : List BodyLine} {s s' s'' : ServiceDraft}
    (first : Effects lines s s') (second : Effects more s' s'') :
    Effects (lines ++ more) s s'' := by
  obtain ⟨ss, read, ran⟩ := first
  obtain ⟨tt, readMore, ranMore⟩ := second
  refine ⟨ss ++ tt, fun rest => ?_, fun after => ?_⟩
  · rw [List.append_assoc, read, readMore, Option.map_map]
    simp [Function.comp_def]
  · rw [List.append_assoc, ran, ranMore]

end Effects

theorem changes_call (method : String) {call : String} {texts : List String} {vs : List Value}
    {change : EndpointDraft → EndpointDraft} (named : scan method.toList = some [.name method])
    (args : List.Forall₂ Denotes texts vs) (written : call.toList = callText method texts)
    (changed : changeEndpoint method vs = some change) : Changes call change := by
  obtain ⟨es, each, values⟩ := exists_arguments args
  refine ⟨method, es, vs, ?_, values, changed⟩
  rw [written, scan_callText named each]
  rfl

/-- Changes are read and evaluated one by one. -/
theorem exists_calls {calls : List String} {changes : List (EndpointDraft → EndpointDraft)}
    (each : List.Forall₂ Changes calls changes) :
    ∃ cs : List (String × List Expr),
      List.Forall₂ (fun call c => scan call.toList = some (callTokens c.1 c.2)) calls cs ∧
        List.Forall₂ (fun c change => ∃ vs, (∀ s, evalAll scope c.2 s = some (vs, s)) ∧
          changeEndpoint c.1 vs = some change) cs changes := by
  induction each with
  | nil => exact ⟨[], .nil, .nil⟩
  | cons first _ ih =>
      obtain ⟨method, args, vs, scanned, value, changed⟩ := first
      obtain ⟨cs, scans, changes⟩ := ih
      exact ⟨(method, args) :: cs, .cons scanned scans, .cons ⟨vs, value, changed⟩ changes⟩

theorem modifyLast_addEndpoint (s : ServiceDraft) (d : EndpointDraft)
    (change : EndpointDraft → EndpointDraft) :
    (s.addEndpoint d).modifyLast change = s.addEndpoint (change d) := by
  simp [ServiceDraft.modifyLast, ServiceDraft.addEndpoint]

theorem apply_endpoint (method : String) (vs : List Value) (s : ServiceDraft) :
    apply (.member .endpoint method) vs (some s) =
      (changeEndpoint method vs).map fun change => (.endpoint, some (s.modifyLast change)) :=
  rfl

/-- Changes in a chain are made to the endpoint that was added last, one after the other. -/
theorem eval_chain {calls : List (String × List Expr)}
    {changes : List (EndpointDraft → EndpointDraft)}
    (each : List.Forall₂ (fun c change => ∃ vs, (∀ s, evalAll scope c.2 s = some (vs, s)) ∧
      changeEndpoint c.1 vs = some change) calls changes)
    {e : Expr} {state : State} {s : ServiceDraft} {d : EndpointDraft}
    (opened : eval scope e state = some (.endpoint, some (s.addEndpoint d))) :
    eval scope (e.chain calls) state =
      some (.endpoint, some (s.addEndpoint (changes.foldl (fun d change => change d) d))) := by
  induction each generalizing e d with
  | nil => exact opened
  | cons first _ ih =>
      obtain ⟨vs, values, changed⟩ := first
      refine ih ?_
      rw [eval_call (eval_member opened _) (values _), Value.select, apply_endpoint, changed,
        Option.map_some, modifyLast_addEndpoint]
      exact nofun

/-- A call on the service with more calls chained to it. -/
def serviceCall (method : String) (args : List Expr) (calls : List (String × List Expr)) : Expr :=
  Expr.chain (.call (.member (.name "b") method) args) calls

theorem read_serviceCall (method : String) (args : List Expr)
    (calls : List (String × List Expr)) :
    Statement.read (serviceCall method args calls).tokens =
      some (.evaluate (serviceCall method args calls)) := by
  have begins : ∃ ts, (serviceCall method args calls).tokens = .name "b" :: .mark '.' :: ts := by
    rw [serviceCall, Expr.tokens_chain]
    simp only [Expr.tokens, List.cons_append, List.nil_append]
    exact ⟨_, rfl⟩
  obtain ⟨ts, begins⟩ := begins
  have read := Expr.read_tokens (serviceCall method args calls)
  rw [begins] at read ⊢
  simp [Statement.read, read]

theorem eval_service (method : String) {args : List Expr} {vs : List Value}
    (values : ∀ s, evalAll scope args s = some (vs, s)) (s : ServiceDraft) :
    eval scope (serviceCall method args []) (some s) =
      (callService method vs s).map fun (v, s) => (v, some s) := by
  have service : eval scope (.name "b") (some s) = some (.service, some s) := by
    rw [eval]
    rfl
  exact eval_call (eval_member service method) (values _)

/-- A statement that calls the service has the effect of its evaluation. -/
theorem effects_callChain (method : String) {start : String} {calls texts : List String}
    {args : List Expr} {cs : List (String × List Expr)}
    (named : scan ("b." ++ method).toList = some [.name "b", .mark '.', .name method])
    (written : start.toList = callText ("b." ++ method) texts)
    (each : List.Forall₂ (fun text e => scan text.toList = some e.tokens) texts args)
    (others : List.Forall₂ (fun call c => scan call.toList = some (callTokens c.1 c.2)) calls cs)
    {s s' : ServiceDraft} {v : Value}
    (value : eval scope (serviceCall method args cs) (some s) = some (v, some s')) :
    Effects (callChain start calls) s s' := by
  have opens : scan start.toList = some (Expr.call (.member (.name "b") method) args).tokens := by
    rw [written, scan_callText named each]
    simp only [Expr.tokens]
    rfl
  have closes : (Expr.call (.member (.name "b") method) args).tokens.getLast? =
      some (.mark ')') := by
    rw [Expr.tokens, ← List.cons_append, ← List.append_assoc, List.getLast?_concat]
  refine ⟨[.evaluate (serviceCall method args cs)], fun rest => ?_, fun more => ?_⟩
  · rw [statements_callChain opens closes others]
    exact congrArg (Option.bind · _) (read_serviceCall method args cs)
  · rw [List.singleton_append, execute, value, Option.bind_some]

/-- A call of a method of the service. -/
theorem effects_call (method : String) {text : String} {texts : List String} {vs : List Value}
    (named : scan ("b." ++ method).toList = some [.name "b", .mark '.', .name method])
    (args : List.Forall₂ Denotes texts vs) (written : text.toList = callText ("b." ++ method) texts)
    {s s' : ServiceDraft} {v : Value} (called : callService method vs s = some (v, s')) :
    Effects [⟨0, text⟩] s s' := by
  obtain ⟨es, each, values⟩ := exists_arguments args
  refine effects_callChain method named written each .nil (v := v) ?_
  rw [eval_service method values, called, Option.map_some]

/-- A new endpoint with a chain of changes. -/
theorem effects_endpoint (name http : String) {calls : List String}
    {changes : List (EndpointDraft → EndpointDraft)} (each : List.Forall₂ Changes calls changes)
    (s : ServiceDraft) :
    Effects (callChain ("b.Endpoint(" ++ quote name ++ ", " ++ quote http ++ ")") calls) s
      (s.addEndpoint (changes.foldl (fun d change => change d) (.new name http))) := by
  obtain ⟨es, texts, values⟩ :=
    exists_arguments (.cons (denotes_quote name) (.cons (denotes_quote http) .nil))
  obtain ⟨cs, scans, changed⟩ := exists_calls each
  refine effects_callChain "Endpoint" rfl ?_ texts scans (eval_chain changed ?_)
  · simp [callText, argumentText]
  · exact eval_service "Endpoint" values s

/-! ## Whole bodies -/

/-- The statement that begins the construction of a service. -/
def newService (name : String) : Statement :=
  .define "b" (.call (.member (.name "describe") "NewServiceBuilder") [.text name])

theorem statements_newService (name : String) (rest : List BodyLine) :
    statements [] (⟨0, "b := describe.NewServiceBuilder(" ++ quote name ++ ")"⟩ :: rest) =
      (statements [] rest).map (newService name :: ·) := by
  have written : ("b := describe.NewServiceBuilder(" ++ quote name ++ ")").toList =
      callText "b := describe.NewServiceBuilder" [quote name] := by
    simp [callText, argumentText]
  have named : scan "b := describe.NewServiceBuilder".toList =
      some [.name "b", .mark ':', .mark '=', .name "describe", .mark '.',
        .name "NewServiceBuilder"] := rfl
  have text : scan (quote name).toList = some (Expr.text name).tokens := by
    rw [scan_quote, Expr.tokens]
  have scanned := scan_callText named (.cons text .nil)
  rw [← written, Expr.tokensOf, Expr.tokens] at scanned
  have ends : (Token.mark ')').endsStatement = true := rfl
  rw [statements_cons_of_ends scanned ends rfl]
  rfl

/-- A body that makes a service, changes it and builds it. -/
theorem describe_of_effects {name : String} {lines : List BodyLine} {s : ServiceDraft}
    (effects : Effects lines (.new name) s) :
    describe (⟨0, "b := describe.NewServiceBuilder(" ++ quote name ++ ")"⟩ ::
      (lines ++ [⟨0, "return b.Build()"⟩])) = some s.build := by
  obtain ⟨ss, read, ran⟩ := effects
  have last : statements [] [⟨0, "return b.Build()"⟩] =
      some [.give (.call (.member (.name "b") "Build") [])] := rfl
  have made (more : List Statement) :
      execute imports (newService name :: more) none = execute scope more (some (.new name)) := by
    have value : eval imports (.call (.member (.name "describe") "NewServiceBuilder")
        [.text name]) none = some (.service, some (.new name)) := by
      simp only [eval, evalAll]
      rfl
    rw [newService, execute, value, Option.bind_some, scope]
  have built : execute scope [.give (.call (.member (.name "b") "Build") [])] (some s) =
      some (.outcome s.build) := by
    have none (state : State) : evalAll scope [] state = some ([], state) := by rw [evalAll]
    have value : eval scope (.call (.member (.name "b") "Build") []) (some s) =
        some (.outcome s.build, some s) := eval_service "Build" none s
    rw [execute, value, Option.map_some]
  rw [describe, statements_newService, read, last]
  simp only [Option.map_some, Option.bind_some]
  rw [made, ran, built]
  rfl

end ApiCompiler.Go.Script
