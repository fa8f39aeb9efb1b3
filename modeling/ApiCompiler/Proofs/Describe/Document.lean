import ApiCompiler.Module.Read
import ApiCompiler.Proofs.Fallible
import ApiCompiler.Proofs.Json
import ApiCompiler.Proofs.Route.RoundTrip

/-!
# What documents keep

The document of a description determines the description. Every record writes its parts under
different keys, and leaves a part out only where its absence means one value of the part: an empty
text, an empty list, or nothing.

What is compared of two defaults is their documents. Of documentation a document only has what is
shown, so descriptions agree up to a relation of documentation: to be shown alike, or to be equal.
For documentation that is text both say the same.
-/

namespace ApiCompiler

open Fallible Text

open Json

/-! ## Resolved types -/

namespace TypeRef

mutual

/-- A type is determined by its document. -/
theorem eq_of_same : ∀ {r r' : TypeRef}, r.toJson.Same r'.toJson → r = r'
  | .builtin name params, .builtin name' params', same => by
      have names := same.text "name"
      have items := same.items "params"
      simp at names items
      rw [names, eq_of_sameAll items]
  | .custom module name, .custom module' name', same => by
      have names := same.text "name"
      have modules := same.text "module"
      simp at names modules
      rw [names, modules]
  | .credentials, .credentials, _ => rfl
  | .unspecified, .unspecified, _ => rfl
  | .builtin _ _, .custom _ _, same
  | .builtin _ _, .credentials, same
  | .custom _ _, .builtin _ _, same
  | .custom _ _, .credentials, same
  | .credentials, .builtin _ _, same
  | .credentials, .custom _ _, same => by simpa using same.text "kind"
  | .unspecified, .builtin _ _, same
  | .unspecified, .custom _ _, same
  | .unspecified, .credentials, same
  | .builtin _ _, .unspecified, same
  | .custom _ _, .unspecified, same
  | .credentials, .unspecified, same => nomatch same

theorem eq_of_sameAll : ∀ {rs rs' : List TypeRef},
    List.Forall₂ Same (toJsonAll rs) (toJsonAll rs') → rs = rs'
  | [], [], _ => rfl
  | r :: rs, r' :: rs', .cons first rest => by
      rw [eq_of_same first, eq_of_sameAll rest]

end

theorem rel_same_iff {r r' : Option TypeRef} :
    Option.Rel Same (r.map toJson) (r'.map toJson) ↔ r = r' := by
  cases r with
  | none => cases r' with
    | none => exact iff_of_true .none rfl
    | some r' => exact iff_of_false nofun nofun
  | some r => cases r' with
    | none => exact iff_of_false nofun nofun
    | some r' =>
        constructor
        · rintro ⟨same⟩
          rw [eq_of_same same]
        · rintro ⟨⟩
          exact .some (Same.refl _)

end TypeRef

/-! ## Records -/

/-- Two raw texts are shown as one text. -/
abbrev ShownAlike (d d' : RawText) : Prop := d.shown = d'.shown

/-- The values of a traversal are the same one by one exactly if the descriptions agree one by
one. -/
theorem forall₂_same_iff {D : Type} {toJson : D → Except Error Json} {Agree : D → D → Prop}
    {as bs : List D} (each : ∀ a ∈ as, ∀ b ∈ bs, ∀ x y, toJson a = .ok x → toJson b = .ok y →
      (x.Same y ↔ Agree a b)) {xs ys : List Json} (first : as.mapM toJson = .ok xs)
    (second : bs.mapM toJson = .ok ys) :
    List.Forall₂ Same xs ys ↔ List.Forall₂ Agree as bs := by
  induction mapM_eq_ok_iff.mp first generalizing bs ys with
  | nil => cases mapM_eq_ok_iff.mp second <;> simp
  | cons made rest ih =>
      cases mapM_eq_ok_iff.mp second with
      | nil => simp
      | cons made' rest' =>
          have head := each _ List.mem_cons_self _ List.mem_cons_self _ _ made made'
          have tail := ih
            (fun a mem b mem' =>
              each a (List.mem_cons_of_mem _ mem) b (List.mem_cons_of_mem _ mem'))
            (mapM_eq_ok_iff.mpr rest) (mapM_eq_ok_iff.mpr rest')
          rw [List.forall₂_cons, List.forall₂_cons, head, tail]

/-- Two plain values have the same document. -/
def Value.SameDocument (v w : Value) : Prop :=
  ∃ x y, v.toJson = .ok x ∧ w.toJson = .ok y ∧ x.Same y

/-- The document of a default. -/
def IsDocumentOf : Option Json → Option Value → Prop :=
  Option.Rel fun x v => v.toJson = .ok x

theorem defaultEntry_eq_ok_iff {default : Option Value} {es : List (String × Json)} :
    defaultEntry default = .ok es ↔
      ∃ o, IsDocumentOf o default ∧ es = optionEntry "default" o := by
  cases default with
  | none =>
      constructor
      · rintro ⟨⟩
        exact ⟨none, .none, rfl⟩
      · rintro ⟨_, ⟨⟩, rfl⟩
        rfl
  | some v =>
      constructor
      · intro made
        obtain ⟨x, document, rfl⟩ := map_eq_ok_iff.mp made
        exact ⟨some x, .some document, rfl⟩
      · rintro ⟨_, ⟨document⟩, rfl⟩
        exact map_eq_ok_iff.mpr ⟨_, document, rfl⟩

/-- What is made of the entry of a default is made of its document. -/
theorem bind_defaultEntry_eq_ok_iff {default : Option Value}
    {f : List (String × Json) → Json} {x : Json} :
    (defaultEntry default >>= fun es => pure (f es)) = .ok x ↔
      ∃ o, IsDocumentOf o default ∧ x = f (optionEntry "default" o) := by
  rw [bind_pure_eq_ok_iff]
  constructor
  · rintro ⟨_, made, rfl⟩
    obtain ⟨o, document, rfl⟩ := defaultEntry_eq_ok_iff.mp made
    exact ⟨o, document, rfl⟩
  · rintro ⟨o, document, rfl⟩
    exact ⟨_, defaultEntry_eq_ok_iff.mpr ⟨o, document, rfl⟩, rfl⟩

/-- Defaults have the same documents, or there is none on either side. -/
theorem rel_same_iff {o o' : Option Json} {d d' : Option Value} (first : IsDocumentOf o d)
    (second : IsDocumentOf o' d') :
    Option.Rel Same o o' ↔ Option.Rel Value.SameDocument d d' := by
  cases first with
  | none =>
      cases second with
      | none => exact iff_of_true .none .none
      | some second => exact iff_of_false nofun nofun
  | some first =>
      cases second with
      | none => exact iff_of_false nofun nofun
      | some second =>
          constructor
          · rintro ⟨same⟩
            exact .some ⟨_, _, first, second, same⟩
          · rintro ⟨x, y, made, made', same⟩
            cases first.symm.trans made
            cases second.symm.trans made'
            exact .some same

/-- Two declared authentications name one method and one header. -/
structure Auth.Agree (a b : Auth) : Prop where
  method : a.method.text = b.method.text
  headerName : a.headerName = b.headerName

theorem Auth.same_iff {a b : Auth} : a.toJson.Same b.toJson ↔ a.Agree b := by
  constructor
  · intro same
    have method := same.text "type"
    have headerName := same.text "header_name"
    simp at method headerName
    exact ⟨method, headerName⟩
  · intro agree
    simp [toJson, Same, agree.method, agree.headerName]

theorem Auth.forall₂_same_iff {as bs : List Auth} :
    List.Forall₂ Same (as.map toJson) (bs.map toJson) ↔ List.Forall₂ Agree as bs := by
  simp only [List.forall₂_map_left_iff, List.forall₂_map_right_iff, same_iff]

/-- Two fields have one name and type, documentation that is alike, and defaults with one
document. -/
structure FieldDescription.Agree (alike : RawText → RawText → Prop) (a b : FieldDescription) :
    Prop where
  name : a.name = b.name
  type : a.type = b.type
  docs : alike a.docs b.docs
  default : Option.Rel Value.SameDocument a.default b.default

namespace FieldDescription

theorem toJson_eq_ok_iff {f : FieldDescription} {x : Json} :
    f.toJson = .ok x ↔ ∃ o, IsDocumentOf o f.default ∧
      x = obj ([("name", .str f.name), ("type", f.type.toJson)] ++
        textEntry "docs" f.docs ++ optionEntry "default" o) :=
  bind_defaultEntry_eq_ok_iff

theorem same_iff {a b : FieldDescription} {x y : Json} (first : a.toJson = .ok x)
    (second : b.toJson = .ok y) : x.Same y ↔ a.Agree ShownAlike b := by
  obtain ⟨o, document, rfl⟩ := toJson_eq_ok_iff.mp first
  obtain ⟨o', document', rfl⟩ := toJson_eq_ok_iff.mp second
  constructor
  · intro same
    have name := same.text "name"
    have type := same.value "type"
    have docs := same.text "docs"
    have default := same.value "default"
    simp at name type docs default
    exact ⟨name, TypeRef.eq_of_same type, docs, (rel_same_iff document document').mp default⟩
  · intro agree
    have default := canonicalEntries_optionEntry
      ((rel_same_iff document document').mpr agree.default) "default"
    apply same_obj_of_eq
    simp only [canonicalEntries_append, canonicalEntries_textEntry, agree.name, agree.type,
      agree.docs, default]

theorem forall₂_same_iff {as bs : List FieldDescription} {xs ys : List Json}
    (first : as.mapM toJson = .ok xs) (second : bs.mapM toJson = .ok ys) :
    List.Forall₂ Same xs ys ↔ List.Forall₂ (Agree ShownAlike) as bs :=
  ApiCompiler.forall₂_same_iff (fun _ _ _ _ _ _ => same_iff) first second

end FieldDescription

/-- Two values of enumerations have one name, and documentation that is alike. -/
structure EnumValue.Agree (alike : RawText → RawText → Prop) (a b : EnumValue) : Prop where
  name : a.name = b.name
  docs : alike a.docs b.docs

theorem EnumValue.same_iff {a b : EnumValue} :
    a.toJson.Same b.toJson ↔ a.Agree ShownAlike b := by
  constructor
  · intro same
    have name := same.text "name"
    have docs := same.text "docs"
    simp at name docs
    exact ⟨name, docs⟩
  · intro agree
    apply same_obj_of_eq
    simp only [canonicalEntries_append, canonicalEntries_textEntry, agree.name, agree.docs]

theorem EnumValue.forall₂_same_iff {as bs : List EnumValue} :
    List.Forall₂ Same (as.map toJson) (bs.map toJson) ↔
      List.Forall₂ (Agree ShownAlike) as bs := by
  simp only [List.forall₂_map_left_iff, List.forall₂_map_right_iff, same_iff]

/-- Two types agree on everything they declare, in order. -/
structure TypeDescription.Agree (alike : RawText → RawText → Prop) (a b : TypeDescription) :
    Prop where
  name : a.name = b.name
  shape : a.shape = b.shape
  docs : alike a.docs b.docs
  base : a.base = b.base
  fields : List.Forall₂ (FieldDescription.Agree alike) a.fields b.fields
  values : List.Forall₂ (EnumValue.Agree alike) a.values b.values
  variants : List.Forall₂ (FieldDescription.Agree alike) a.variants b.variants

namespace TypeDescription

theorem shape_text_injective {s t : TypeShape} (same : s.text = t.text) : s = t := by
  cases s <;> cases t <;> first | rfl | exact absurd same (by decide)

theorem toJson_eq_ok_iff {t : TypeDescription} {x : Json} :
    t.toJson = .ok x ↔ ∃ fields variants, t.fields.mapM FieldDescription.toJson = .ok fields ∧
      t.variants.mapM FieldDescription.toJson = .ok variants ∧
      x = obj ([("kind", .str t.shape.text), ("name", .str t.name)] ++
        textEntry "docs" t.docs ++ optionEntry "extends" (t.base.map TypeRef.toJson) ++
        listEntry "fields" fields ++ listEntry "values" (t.values.map EnumValue.toJson) ++
        listEntry "union" variants) := by
  refine bind_eq_ok_iff.trans (exists_congr fun fields => ?_)
  rw [exists_and_left]
  exact and_congr_right fun _ => bind_pure_eq_ok_iff

theorem same_iff {a b : TypeDescription} {x y : Json} (first : a.toJson = .ok x)
    (second : b.toJson = .ok y) : x.Same y ↔ a.Agree ShownAlike b := by
  obtain ⟨fields, variants, fieldsMade, variantsMade, rfl⟩ := toJson_eq_ok_iff.mp first
  obtain ⟨fields', variants', fieldsMade', variantsMade', rfl⟩ := toJson_eq_ok_iff.mp second
  constructor
  · intro same
    have shape := same.text "kind"
    have name := same.text "name"
    have docs := same.text "docs"
    have base := same.value "extends"
    have fields := same.items "fields"
    have values := same.items "values"
    have variants := same.items "union"
    simp at shape name docs base fields variants
    simp [-List.forall₂_map_left_iff, -List.forall₂_map_right_iff] at values
    exact ⟨name, shape_text_injective shape, docs, TypeRef.rel_same_iff.mp base,
      (FieldDescription.forall₂_same_iff fieldsMade fieldsMade').mp fields,
      EnumValue.forall₂_same_iff.mp values,
      (FieldDescription.forall₂_same_iff variantsMade variantsMade').mp variants⟩
  · intro agree
    have fields := canonicalEntries_listEntry
      ((FieldDescription.forall₂_same_iff fieldsMade fieldsMade').mpr agree.fields) "fields"
    have variants := canonicalEntries_listEntry
      ((FieldDescription.forall₂_same_iff variantsMade variantsMade').mpr agree.variants) "union"
    have values := canonicalEntries_listEntry
      (EnumValue.forall₂_same_iff.mpr agree.values) "values"
    apply same_obj_of_eq
    simp only [canonicalEntries_append, canonicalEntries_textEntry, agree.name, agree.shape,
      agree.docs, agree.base, values, fields, variants]

end TypeDescription

/-- Two errors have one name and code, documentation that is alike, and agree on their fields, in
order. -/
structure ErrorDescription.Agree (alike : RawText → RawText → Prop) (a b : ErrorDescription) :
    Prop where
  name : a.name = b.name
  code : a.code.text = b.code.text
  fields : List.Forall₂ (FieldDescription.Agree alike) a.fields b.fields
  docs : alike a.docs b.docs

namespace ErrorDescription

theorem toJson_eq_ok_iff {e : ErrorDescription} {x : Json} :
    e.toJson = .ok x ↔ ∃ fields, e.fields.mapM FieldDescription.toJson = .ok fields ∧
      x = obj ([("kind", .str "error"), ("name", .str e.name), ("error_code", .str e.code.text)] ++
        listEntry "fields" fields ++ textEntry "docs" e.docs) :=
  bind_pure_eq_ok_iff

theorem same_iff {a b : ErrorDescription} {x y : Json} (first : a.toJson = .ok x)
    (second : b.toJson = .ok y) : x.Same y ↔ a.Agree ShownAlike b := by
  obtain ⟨fields, fieldsMade, rfl⟩ := toJson_eq_ok_iff.mp first
  obtain ⟨fields', fieldsMade', rfl⟩ := toJson_eq_ok_iff.mp second
  constructor
  · intro same
    have name := same.text "name"
    have code := same.text "error_code"
    have fields := same.items "fields"
    have docs := same.text "docs"
    simp at name code fields docs
    exact ⟨name, code, (FieldDescription.forall₂_same_iff fieldsMade fieldsMade').mp fields, docs⟩
  · intro agree
    have fields := canonicalEntries_listEntry
      ((FieldDescription.forall₂_same_iff fieldsMade fieldsMade').mpr agree.fields) "fields"
    apply same_obj_of_eq
    simp only [canonicalEntries_append, canonicalEntries_textEntry, agree.name, agree.code,
      agree.docs, fields]

end ErrorDescription

/-- The name of a kind as documents give it; it is empty if there is no kind. -/
def ArgumentDescription.kindName (a : ArgumentDescription) : String :=
  a.kind.elim "" ParamKind.text

/-- Two arguments have one name, kind, type and alias, and defaults with one document. -/
structure ArgumentDescription.Agree (a b : ArgumentDescription) : Prop where
  name : a.name = b.name
  kind : a.kindName = b.kindName
  type : a.type = b.type
  aliasName : a.aliasName = b.aliasName
  default : Option.Rel Value.SameDocument a.default b.default

namespace ArgumentDescription

theorem toJson_eq_ok_iff {a : ArgumentDescription} {x : Json} :
    a.toJson = .ok x ↔ ∃ o, IsDocumentOf o a.default ∧
      x = obj ([("name", .str a.name), ("kind", .str a.kindName), ("type", a.type.toJson)] ++
        textEntry "alias" a.aliasName ++ optionEntry "default" o) :=
  bind_defaultEntry_eq_ok_iff

theorem same_iff {a b : ArgumentDescription} {x y : Json} (first : a.toJson = .ok x)
    (second : b.toJson = .ok y) : x.Same y ↔ a.Agree b := by
  obtain ⟨o, document, rfl⟩ := toJson_eq_ok_iff.mp first
  obtain ⟨o', document', rfl⟩ := toJson_eq_ok_iff.mp second
  constructor
  · intro same
    have name := same.text "name"
    have kind := same.text "kind"
    have type := same.value "type"
    have aliasName := same.text "alias"
    have default := same.value "default"
    simp at name kind type aliasName default
    exact ⟨name, kind, TypeRef.eq_of_same type, aliasName,
      (rel_same_iff document document').mp default⟩
  · intro agree
    have default := canonicalEntries_optionEntry
      ((rel_same_iff document document').mpr agree.default) "default"
    apply same_obj_of_eq
    simp only [canonicalEntries_append, agree.name, agree.kind, agree.type, agree.aliasName,
      default]

end ArgumentDescription

/-- Two endpoints agree on everything, with their arguments in the order of a call. -/
structure EndpointDescription.Agree (alike : RawText → RawText → Prop)
    (a b : EndpointDescription) : Prop where
  name : a.name = b.name
  route : a.route = b.route
  args : List.Forall₂ ArgumentDescription.Agree a.args b.args
  result : a.result = b.result
  auth : List.Forall₂ Auth.Agree a.auth b.auth
  docs : alike a.docs b.docs

/-- The route of an endpoint was read from a text. -/
def EndpointDescription.HasReadRoute (e : EndpointDescription) : Prop :=
  ∃ text, Route.parse text = .ok e.route

namespace EndpointDescription

theorem toJson_eq_ok_iff {e : EndpointDescription} {x : Json} :
    e.toJson = .ok x ↔ ∃ args, e.args.mapM ArgumentDescription.toJson = .ok args ∧
      x = obj ([("name", .str e.name), ("http", .str e.route.render), ("args", .arr args),
        ("args_ordering", .arr (e.argNames.map fun name : String => .str name))] ++
        optionEntry "return" (e.result.map TypeRef.toJson) ++
        listEntry "auth" (e.auth.map Auth.toJson) ++ textEntry "docs" e.docs) :=
  bind_pure_eq_ok_iff

theorem route_eq_of_render_eq {a b : EndpointDescription} (read : a.HasReadRoute)
    (read' : b.HasReadRoute) (same : a.route.render = b.route.render) : a.route = b.route := by
  obtain ⟨_, read⟩ := read
  obtain ⟨_, read'⟩ := read'
  have again := Route.parse_render_of_parse read
  rw [same, Route.parse_render_of_parse read'] at again
  exact (Except.ok.inj again).symm

theorem same_iff {a b : EndpointDescription} (read : a.HasReadRoute) (read' : b.HasReadRoute)
    {x y : Json} (first : a.toJson = .ok x) (second : b.toJson = .ok y) :
    x.Same y ↔ a.Agree ShownAlike b := by
  obtain ⟨args, argsMade, rfl⟩ := toJson_eq_ok_iff.mp first
  obtain ⟨args', argsMade', rfl⟩ := toJson_eq_ok_iff.mp second
  have arguments : List.Forall₂ Same args args' ↔
      List.Forall₂ ArgumentDescription.Agree a.args b.args :=
    forall₂_same_iff (fun _ _ _ _ _ _ => ArgumentDescription.same_iff) argsMade argsMade'
  constructor
  · intro same
    have name := same.text "name"
    have route := same.text "http"
    have args := same.items "args"
    have result := same.value "return"
    have auth := same.items "auth"
    have docs := same.text "docs"
    simp [-List.forall₂_map_left_iff, -List.forall₂_map_right_iff] at name route args result auth
    simp at docs
    exact ⟨name, route_eq_of_render_eq read read' route, arguments.mp args,
      TypeRef.rel_same_iff.mp result, Auth.forall₂_same_iff.mp auth, docs⟩
  · intro agree
    have all : canonical (arr args) = canonical (arr args') :=
      same_arr_iff.mpr (arguments.mpr agree.args)
    have names : a.argNames = b.argNames :=
      map_eq_map_of_forall₂ (agree.args.imp fun _ _ same => same.name)
    have auth := canonicalEntries_listEntry (Auth.forall₂_same_iff.mpr agree.auth) "auth"
    apply same_obj_of_eq
    simp only [canonicalEntries_append, canonicalEntries_cons, canonicalEntries_nil,
      canonicalEntries_textEntry, agree.name, agree.route, agree.result, agree.docs, names, auth,
      all]

end EndpointDescription

/-- Two services have one name and documentation that is alike, and agree on their authentication
and their endpoints, in order. -/
structure ServiceDescription.Agree (alike : RawText → RawText → Prop) (a b : ServiceDescription) :
    Prop where
  name : a.name = b.name
  auth : List.Forall₂ Auth.Agree a.auth b.auth
  endpoints : List.Forall₂ (EndpointDescription.Agree alike) a.endpoints b.endpoints
  docs : alike a.docs b.docs

namespace ServiceDescription

theorem toJson_eq_ok_iff {s : ServiceDescription} {x : Json} :
    s.toJson = .ok x ↔ ∃ endpoints, s.endpoints.mapM EndpointDescription.toJson = .ok endpoints ∧
      x = obj ([("name", .str s.name)] ++ listEntry "auth" (s.auth.map Auth.toJson) ++
        [("endpoints", .arr endpoints)] ++ textEntry "docs" s.docs) :=
  bind_pure_eq_ok_iff

theorem same_iff {a b : ServiceDescription} (read : ∀ e ∈ a.endpoints, e.HasReadRoute)
    (read' : ∀ e ∈ b.endpoints, e.HasReadRoute) {x y : Json} (first : a.toJson = .ok x)
    (second : b.toJson = .ok y) : x.Same y ↔ a.Agree ShownAlike b := by
  obtain ⟨endpoints, made, rfl⟩ := toJson_eq_ok_iff.mp first
  obtain ⟨endpoints', made', rfl⟩ := toJson_eq_ok_iff.mp second
  have each := forall₂_same_iff (fun e mem e' mem' _ _ =>
    EndpointDescription.same_iff (read e mem) (read' e' mem')) made made'
  constructor
  · intro same
    have name := same.text "name"
    have auth := same.items "auth"
    have endpoints := same.items "endpoints"
    have docs := same.text "docs"
    simp [-List.forall₂_map_left_iff, -List.forall₂_map_right_iff] at name auth endpoints docs
    exact ⟨name, Auth.forall₂_same_iff.mp auth, each.mp endpoints, docs⟩
  · intro agree
    have all : canonical (arr endpoints) = canonical (arr endpoints') :=
      same_arr_iff.mpr (each.mpr agree.endpoints)
    have auth := canonicalEntries_listEntry (Auth.forall₂_same_iff.mpr agree.auth) "auth"
    apply same_obj_of_eq
    simp only [canonicalEntries_append, canonicalEntries_cons, canonicalEntries_nil,
      canonicalEntries_textEntry, agree.name, agree.docs, auth, all]

end ServiceDescription

/-- Two modules agree on everything they declare, in order. -/
structure ModuleDescription.Agree (alike : RawText → RawText → Prop) (a b : ModuleDescription) :
    Prop where
  module : a.module = b.module
  docs : alike a.docs b.docs
  types : List.Forall₂ (TypeDescription.Agree alike) a.types b.types
  errors : List.Forall₂ (ErrorDescription.Agree alike) a.errors b.errors
  service : Option.Rel (ServiceDescription.Agree alike) a.service b.service

namespace ModuleDescription

/-- The document of a service, if there is one. -/
def IsServiceDocument : Option Json → Option ServiceDescription → Prop :=
  Option.Rel fun x s => s.toJson = .ok x

theorem rel_service_iff {a b : Option ServiceDescription} {o o' : Option Json}
    (first : IsServiceDocument o a) (second : IsServiceDocument o' b)
    (each : ∀ s ∈ a, ∀ t ∈ b, ∀ x y, s.toJson = .ok x → t.toJson = .ok y →
      (x.Same y ↔ s.Agree ShownAlike t)) :
    Option.Rel Same o o' ↔ Option.Rel (ServiceDescription.Agree ShownAlike) a b := by
  cases first with
  | none =>
      cases second with
      | none => exact iff_of_true .none .none
      | some second => exact iff_of_false nofun nofun
  | some first =>
      cases second with
      | none => exact iff_of_false nofun nofun
      | some second =>
          have same := each _ rfl _ rfl _ _ first second
          constructor
          · rintro ⟨inside⟩
            exact .some (same.mp inside)
          · rintro ⟨inside⟩
            exact .some (same.mpr inside)

theorem toJson_eq_ok_iff {m : ModuleDescription} {x : Json} :
    m.toJson = .ok x ↔ ∃ service types errors, IsServiceDocument service m.service ∧
      m.types.mapM TypeDescription.toJson = .ok types ∧
      m.errors.mapM ErrorDescription.toJson = .ok errors ∧
      x = obj ([("module", .str m.module)] ++ textEntry "docs" m.docs ++
        listEntry "types" types ++ listEntry "errors" errors ++
        optionEntry "service" service) := by
  have rest (o : Option Json) : (do
        let types ← m.types.mapM TypeDescription.toJson
        let errors ← m.errors.mapM ErrorDescription.toJson
        return obj ([("module", .str m.module)] ++ textEntry "docs" m.docs ++
          listEntry "types" types ++ listEntry "errors" errors ++ optionEntry "service" o)) =
        Except.ok x ↔ ∃ types errors, m.types.mapM TypeDescription.toJson = .ok types ∧
      m.errors.mapM ErrorDescription.toJson = .ok errors ∧
      x = obj ([("module", .str m.module)] ++ textEntry "docs" m.docs ++
        listEntry "types" types ++ listEntry "errors" errors ++ optionEntry "service" o) := by
    refine bind_eq_ok_iff.trans (exists_congr fun types => ?_)
    rw [exists_and_left]
    exact and_congr_right fun _ => bind_pure_eq_ok_iff
  unfold toJson
  cases m.service with
  | none =>
      refine (rest none).trans ?_
      constructor
      · rintro ⟨types, errors, made⟩
        exact ⟨none, types, errors, .none, made⟩
      · rintro ⟨_, types, errors, ⟨⟩, made⟩
        exact ⟨types, errors, made⟩
  | some s =>
      dsimp only
      rw [bind_eq_ok_iff]
      constructor
      · rintro ⟨_, service, made⟩
        obtain ⟨document, first, rfl⟩ := map_eq_ok_iff.mp service
        obtain ⟨types, errors, made⟩ := (rest (some document)).mp made
        exact ⟨some document, types, errors, .some first, made⟩
      · rintro ⟨_, types, errors, ⟨first⟩, made⟩
        exact ⟨_, map_eq_ok_iff.mpr ⟨_, first, rfl⟩, (rest _).mpr ⟨types, errors, made⟩⟩

/-- The routes of all endpoints were read from texts. -/
def HasReadRoutes (m : ModuleDescription) : Prop :=
  ∀ s ∈ m.service, ∀ e ∈ s.endpoints, e.HasReadRoute

theorem same_iff {a b : ModuleDescription} (read : a.HasReadRoutes) (read' : b.HasReadRoutes)
    {x y : Json} (first : a.toJson = .ok x) (second : b.toJson = .ok y) :
    x.Same y ↔ a.Agree ShownAlike b := by
  obtain ⟨service, types, errors, serviceMade, typesMade, errorsMade, rfl⟩ :=
    toJson_eq_ok_iff.mp first
  obtain ⟨service', types', errors', serviceMade', typesMade', errorsMade', rfl⟩ :=
    toJson_eq_ok_iff.mp second
  have eachType := forall₂_same_iff (fun _ _ _ _ _ _ => TypeDescription.same_iff) typesMade
    typesMade'
  have eachError := forall₂_same_iff (fun _ _ _ _ _ _ => ErrorDescription.same_iff) errorsMade
    errorsMade'
  have services := rel_service_iff serviceMade serviceMade' fun s mem t mem' _ _ =>
    ServiceDescription.same_iff (read s mem) (read' t mem')
  constructor
  · intro same
    have module := same.text "module"
    have docs := same.text "docs"
    have types := same.items "types"
    have errors := same.items "errors"
    have service := same.value "service"
    simp at module docs types errors service
    exact ⟨module, docs, eachType.mp types, eachError.mp errors, services.mp service⟩
  · intro agree
    have types := canonicalEntries_listEntry (eachType.mpr agree.types) "types"
    have errors := canonicalEntries_listEntry (eachError.mpr agree.errors) "errors"
    have service := canonicalEntries_optionEntry (services.mpr agree.service) "service"
    apply same_obj_of_eq
    simp only [canonicalEntries_append, canonicalEntries_textEntry, agree.module, agree.docs, types,
      errors, service]

end ModuleDescription

/-! ## Defaults -/

namespace ModuleDescription

/-- The defaults of fields, variants and arguments, at every depth and in order. -/
def defaults (m : ModuleDescription) : List (Option Value) :=
  m.types.flatMap (fun t => (t.fields ++ t.variants).map (·.default)) ++
    m.errors.flatMap (fun e => e.fields.map (·.default)) ++
    m.service.toList.flatMap fun s => s.endpoints.flatMap fun e => e.args.map (·.default)

end ModuleDescription

theorem succeeds_defaultEntry_iff {default : Option Value} :
    Succeeds (defaultEntry default) ↔ ∀ v ∈ default, Succeeds v.toJson := by
  cases default with
  | none => simp [defaultEntry]
  | some v => simp [defaultEntry]

theorem FieldDescription.succeeds_toJson_iff {f : FieldDescription} :
    Succeeds f.toJson ↔ ∀ v ∈ f.default, Succeeds v.toJson :=
  (succeeds_bind_iff_left fun _ _ => succeeds_pure _).trans succeeds_defaultEntry_iff

theorem ArgumentDescription.succeeds_toJson_iff {a : ArgumentDescription} :
    Succeeds a.toJson ↔ ∀ v ∈ a.default, Succeeds v.toJson :=
  (succeeds_bind_iff_left fun _ _ => succeeds_pure _).trans succeeds_defaultEntry_iff

theorem TypeDescription.succeeds_toJson_iff {t : TypeDescription} :
    Succeeds t.toJson ↔ ∀ f ∈ t.fields ++ t.variants, ∀ v ∈ f.default, Succeeds v.toJson := by
  have variants (fields : List Json) : Succeeds (do
      let variants ← t.variants.mapM FieldDescription.toJson
      return obj ([("kind", .str t.shape.text), ("name", .str t.name)] ++
        textEntry "docs" t.docs ++ optionEntry "extends" (t.base.map TypeRef.toJson) ++
        listEntry "fields" fields ++ listEntry "values" (t.values.map EnumValue.toJson) ++
        listEntry "union" variants) : Except Error Json) ↔
      ∀ f ∈ t.variants, ∀ v ∈ f.default, Succeeds v.toJson := by
    rw [succeeds_bind_iff_left fun _ _ => succeeds_pure _, succeeds_mapM_iff]
    simp only [FieldDescription.succeeds_toJson_iff]
  refine (succeeds_bind_iff fun fields _ => variants fields).trans ?_
  rw [succeeds_mapM_iff, List.forall_mem_append]
  simp only [FieldDescription.succeeds_toJson_iff]

theorem ErrorDescription.succeeds_toJson_iff {e : ErrorDescription} :
    Succeeds e.toJson ↔ ∀ f ∈ e.fields, ∀ v ∈ f.default, Succeeds v.toJson := by
  refine (succeeds_bind_iff_left fun _ _ => succeeds_pure _).trans ?_
  rw [succeeds_mapM_iff]
  simp only [FieldDescription.succeeds_toJson_iff]

theorem EndpointDescription.succeeds_toJson_iff {e : EndpointDescription} :
    Succeeds e.toJson ↔ ∀ a ∈ e.args, ∀ v ∈ a.default, Succeeds v.toJson := by
  refine (succeeds_bind_iff_left fun _ _ => succeeds_pure _).trans ?_
  rw [succeeds_mapM_iff]
  simp only [ArgumentDescription.succeeds_toJson_iff]

theorem ServiceDescription.succeeds_toJson_iff {s : ServiceDescription} :
    Succeeds s.toJson ↔ ∀ e ∈ s.endpoints, ∀ a ∈ e.args, ∀ v ∈ a.default, Succeeds v.toJson := by
  refine (succeeds_bind_iff_left fun _ _ => succeeds_pure _).trans ?_
  rw [succeeds_mapM_iff]
  simp only [EndpointDescription.succeeds_toJson_iff]

namespace ModuleDescription

end ModuleDescription

/-- Only null has the document null. -/
theorem Value.toJson_eq_null_iff {v : Value} : v.toJson = .ok .null ↔ v = .null := by
  constructor
  · intro made
    cases v with
    | null => rfl
    | bool | int | str => exact nomatch made
    | float d | time t =>
        unfold toJson at made
        split at made
        · exact nomatch made
        · exact nomatch made
    | list | map | table =>
        unfold toJson at made
        obtain ⟨_, -, made⟩ := map_eq_ok_iff.mp made
        exact nomatch made
  · rintro rfl
    rfl

theorem Json.same_null_iff {x : Json} : Same .null x ↔ x = .null := by
  cases x with
  | null => exact iff_of_true (Same.refl _) rfl
  | _ => exact iff_of_false nofun nofun

/-- A default that is null is told from every other one. -/
theorem Value.SameDocument.eq_null_iff {v w : Value} (same : v.SameDocument w) :
    v = .null ↔ w = .null := by
  obtain ⟨x, y, first, second, same⟩ := same
  constructor
  · rintro rfl
    cases first
    rw [Json.same_null_iff.mp same] at second
    exact toJson_eq_null_iff.mp second
  · rintro rfl
    cases second
    rw [Json.same_null_iff.mp same.symm] at first
    exact toJson_eq_null_iff.mp first

/-- Two defaults are alike: both missing, both null, or both something else. -/
def AlikeDefaults (d e : Option Value) : Prop :=
  (d = none ↔ e = none) ∧ (d = some .null ↔ e = some .null)

theorem alikeDefaults_of_rel {d e : Option Value} (same : Option.Rel Value.SameDocument d e) :
    AlikeDefaults d e := by
  cases same with
  | none => exact ⟨Iff.rfl, iff_of_false nofun nofun⟩
  | some same =>
      refine ⟨iff_of_false nofun nofun, ?_⟩
      rw [Option.some.injEq, Option.some.injEq]
      exact same.eq_null_iff

namespace ModuleDescription

theorem Agree.defaults {alike : RawText → RawText → Prop} {a b : ModuleDescription}
    (agree : a.Agree alike b) : List.Forall₂ AlikeDefaults a.defaults b.defaults := by
  have fields {fs gs : List FieldDescription}
      (each : List.Forall₂ (FieldDescription.Agree alike) fs gs) :
      List.Forall₂ AlikeDefaults (fs.map (·.default)) (gs.map (·.default)) :=
    List.rel_map (fun _ _ same => alikeDefaults_of_rel same.default) each
  refine List.rel_append (List.rel_append ?_ ?_) ?_
  · refine List.rel_flatMap agree.types fun s t same => ?_
    exact fields (List.rel_append same.fields same.variants)
  · exact List.rel_flatMap agree.errors fun d e same => fields same.fields
  · have services {s t : Option ServiceDescription}
        (same : Option.Rel (ServiceDescription.Agree alike) s t) :
        List.Forall₂ (ServiceDescription.Agree alike) s.toList t.toList := by
      cases same with
      | none => exact .nil
      | some same => exact .cons same .nil
    refine List.rel_flatMap (services agree.service) fun s t same => ?_
    refine List.rel_flatMap same.endpoints fun d e same => ?_
    exact List.rel_map (fun _ _ same => alikeDefaults_of_rel same.default) same.args

end ModuleDescription

/-! ## Documentation -/

/-- What is related one by one is related in another way, too, if that follows for its members. -/
theorem forall₂_imp_of_mem {α β : Type} {related related' : α → β → Prop} {as : List α}
    {bs : List β} (each : List.Forall₂ related as bs)
    (imp : ∀ a ∈ as, ∀ b ∈ bs, related a b → related' a b) : List.Forall₂ related' as bs := by
  obtain ⟨length, each⟩ := List.forall₂_iff_zip.mp each
  refine List.forall₂_iff_zip.mpr ⟨length, fun mem => ?_⟩
  obtain ⟨left, right⟩ := List.of_mem_zip mem
  exact imp _ left _ right (each mem)

theorem rel_imp_of_mem {α β : Type} {related related' : α → β → Prop} {a : Option α}
    {b : Option β} (each : Option.Rel related a b)
    (imp : ∀ x ∈ a, ∀ y ∈ b, related x y → related' x y) : Option.Rel related' a b := by
  cases each with
  | none => exact .none
  | some same => exact .some (imp _ rfl _ rfl same)

section

variable {alike alike' : RawText → RawText → Prop}

theorem FieldDescription.Agree.imp {a b : FieldDescription} (agree : a.Agree alike b)
    (imp : alike a.docs b.docs → alike' a.docs b.docs) : a.Agree alike' b :=
  { agree with docs := imp agree.docs }

theorem EnumValue.Agree.imp {a b : EnumValue} (agree : a.Agree alike b)
    (imp : alike a.docs b.docs → alike' a.docs b.docs) : a.Agree alike' b :=
  { agree with docs := imp agree.docs }

theorem EndpointDescription.Agree.imp {a b : EndpointDescription} (agree : a.Agree alike b)
    (imp : alike a.docs b.docs → alike' a.docs b.docs) : a.Agree alike' b :=
  { agree with docs := imp agree.docs }

namespace TypeDescription

/-- The documentation of a type and of its fields, variants and values. -/
def documentation (t : TypeDescription) : List RawText :=
  t.docs :: ((t.fields ++ t.variants).map (·.docs) ++ t.values.map (·.docs))

theorem docs_mem_of_field {t : TypeDescription} {f : FieldDescription}
    (mem : f ∈ t.fields ++ t.variants) : f.docs ∈ t.documentation :=
  List.mem_cons_of_mem _ (List.mem_append_left _ (List.mem_map_of_mem mem))

theorem docs_mem_of_value {t : TypeDescription} {v : EnumValue} (mem : v ∈ t.values) :
    v.docs ∈ t.documentation :=
  List.mem_cons_of_mem _ (List.mem_append_right _ (List.mem_map_of_mem mem))

theorem Agree.imp {a b : TypeDescription} (agree : a.Agree alike b)
    (imp : ∀ d ∈ a.documentation, ∀ d' ∈ b.documentation, alike d d' → alike' d d') :
    a.Agree alike' b :=
  { agree with
    docs := imp _ List.mem_cons_self _ List.mem_cons_self agree.docs
    fields := forall₂_imp_of_mem agree.fields fun _ mem _ mem' same =>
      same.imp (imp _ (docs_mem_of_field (List.mem_append_left _ mem)) _
        (docs_mem_of_field (List.mem_append_left _ mem')))
    variants := forall₂_imp_of_mem agree.variants fun _ mem _ mem' same =>
      same.imp (imp _ (docs_mem_of_field (List.mem_append_right _ mem)) _
        (docs_mem_of_field (List.mem_append_right _ mem')))
    values := forall₂_imp_of_mem agree.values fun _ mem _ mem' same =>
      same.imp (imp _ (docs_mem_of_value mem) _ (docs_mem_of_value mem')) }

end TypeDescription

namespace ErrorDescription

/-- The documentation of an error and of its fields. -/
def documentation (e : ErrorDescription) : List RawText := e.docs :: e.fields.map (·.docs)

theorem Agree.imp {a b : ErrorDescription} (agree : a.Agree alike b)
    (imp : ∀ d ∈ a.documentation, ∀ d' ∈ b.documentation, alike d d' → alike' d d') :
    a.Agree alike' b :=
  { agree with
    docs := imp _ List.mem_cons_self _ List.mem_cons_self agree.docs
    fields := forall₂_imp_of_mem agree.fields fun _ mem _ mem' same =>
      same.imp (imp _ (List.mem_cons_of_mem _ (List.mem_map_of_mem mem)) _
        (List.mem_cons_of_mem _ (List.mem_map_of_mem mem'))) }

end ErrorDescription

namespace ServiceDescription

/-- The documentation of a service and of its endpoints. -/
def documentation (s : ServiceDescription) : List RawText := s.docs :: s.endpoints.map (·.docs)

theorem Agree.imp {a b : ServiceDescription} (agree : a.Agree alike b)
    (imp : ∀ d ∈ a.documentation, ∀ d' ∈ b.documentation, alike d d' → alike' d d') :
    a.Agree alike' b :=
  { agree with
    docs := imp _ List.mem_cons_self _ List.mem_cons_self agree.docs
    endpoints := forall₂_imp_of_mem agree.endpoints fun _ mem _ mem' same =>
      same.imp (imp _ (List.mem_cons_of_mem _ (List.mem_map_of_mem mem)) _
        (List.mem_cons_of_mem _ (List.mem_map_of_mem mem'))) }

end ServiceDescription

namespace ModuleDescription

/-- The documentation of a module and of everything in it. -/
def documentation (m : ModuleDescription) : List RawText :=
  m.docs :: (m.types.flatMap (·.documentation) ++ m.errors.flatMap (·.documentation) ++
    m.service.toList.flatMap (·.documentation))

theorem Agree.imp {a b : ModuleDescription} (agree : a.Agree alike b)
    (imp : ∀ d ∈ a.documentation, ∀ d' ∈ b.documentation, alike d d' → alike' d d') :
    a.Agree alike' b := by
  obtain ⟨module, docs, types, errors, service⟩ := agree
  simp only [documentation, List.mem_cons, List.mem_append, List.mem_flatMap, Option.mem_toList]
    at imp
  refine ⟨module, imp _ (.inl rfl) _ (.inl rfl) docs, ?types, ?errors, ?service⟩
  case types =>
    refine forall₂_imp_of_mem types fun t mem t' mem' same => ?_
    exact same.imp fun d inside d' inside' =>
      imp d (.inr (.inl (.inl ⟨t, mem, inside⟩))) d' (.inr (.inl (.inl ⟨t', mem', inside'⟩)))
  case errors =>
    refine forall₂_imp_of_mem errors fun e mem e' mem' same => ?_
    exact same.imp fun d inside d' inside' =>
      imp d (.inr (.inl (.inr ⟨e, mem, inside⟩))) d' (.inr (.inl (.inr ⟨e', mem', inside'⟩)))
  case service =>
    refine rel_imp_of_mem service fun s mem s' mem' same => ?_
    exact same.imp fun d inside d' inside' =>
      imp d (.inr (.inr ⟨s, mem, inside⟩)) d' (.inr (.inr ⟨s', mem', inside'⟩))

end ModuleDescription

end

namespace ModuleDescription

/-- A definition that is read and described on its own. -/
def ofText (text : String) : Except Error ModuleDescription := do
  let m ← Module.decode text
  let p ← Project.empty.add "api" m
  ofModule p "api"

/-- A module that has documentation and declares nothing. -/
def bare (docs : RawText) : ModuleDescription := ⟨"api", docs, [], [], none⟩

end ModuleDescription

end ApiCompiler
