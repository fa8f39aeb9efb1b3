import ApiCompiler.Proofs.Fallible
import ApiCompiler.Proofs.Python.Docstring
import ApiCompiler.Proofs.Route.RoundTrip
import ApiCompiler.Target.Python.Generate

/-!
# Routes in decorators

The decorator of an endpoint shows its route between double quotes, as it is. It is a literal for
the route, with nothing but the closing bracket behind it, exactly if the route has no double quote
and no line break and none of its backslashes begins an escape.
-/

namespace ApiCompiler

open Fallible Text

namespace Python

/-! ## The first line of a method -/

section Decorators

variable {c : Converter String} {m : Module} {isAsync : Bool} {endpoint : String} {e : Endpoint}
  {im im' : Imports} {method : Method} {w : Writer}

/-- What the decorator of an endpoint is called with, and the closing bracket. -/
def routeArgument (r : Route) : String := "\"" ++ r.render ++ "\")"

theorem toList_routeArgument (r : Route) :
    (routeArgument r).toList = '"' :: (r.render.toList ++ ['"', ')']) := by
  simp [routeArgument]

/-- The first decorator of a method shows the route of its endpoint. -/
theorem exists_decorators_of_endpointMethod
    (run : endpointMethod c m isAsync endpoint e im = .ok (method, im')) :
    ∃ others, method.decorators = ("@endpoint(" ++ routeArgument e.route) :: others := by
  unfold endpointMethod at run
  obtain ⟨⟨auth, _⟩, -, run⟩ := bind_eq_ok_iff.mp run
  obtain ⟨⟨_, _⟩, -, run⟩ := bind_eq_ok_iff.mp run
  obtain ⟨⟨_, _⟩, -, run⟩ := bind_eq_ok_iff.mp run
  obtain ⟨⟨_, _⟩, -, run⟩ := bind_eq_ok_iff.mp run
  cases run
  refine ⟨auth ++ ["@abc.abstractmethod"], ?_⟩
  have opening : "@endpoint(" ++ "\"" = "@endpoint(\"" := by decide
  rw [routeArgument, ← opening]
  simp only [List.cons_append, List.nil_append, String.append_assoc]

/-- A method is written behind its first decorator. -/
theorem exists_text_of_decorators {first : String} {others : List String}
    (decorators : method.decorators = first :: others)
    (ends : Writer.EndsVisibly first) :
    ∃ more, (method.write w).text = w.text ++ (w.indentation ++ first ++ "\n") ++ more := by
  have later : (w.line first).Extends (method.write w) := by
    rw [Method.write, decorators, List.foldl_cons]
    apply (Writer.extends_foldl_line _ others).trans
    apply (Writer.extends_line _ _).trans
    apply Writer.Extends.indented
    exact (extends_writeDocstring _ _).trans (Writer.extends_foldl_line _ _)
  obtain ⟨more, text⟩ := later
  refine ⟨more, ?_⟩
  rw [text, Writer.text_line, w.indentedLine_of_ends ends]

end Decorators

/-! ## The route as a literal -/

section Literals

variable {s : String} {r : Route}

/-- A route that was read begins with a letter, so its literal is delimited by one quote. -/
theorem literal?_routeArgument (read : Route.parse s = .ok r) (after : List Char) :
    literal? ((routeArgument r).toList ++ after) =
      Delimiter.one.close? (s.toList ++ '"' :: ')' :: after) := by
  have letters : ∀ method ∈ Route.methods, method.toList.head?.any (· != '"') = true := by decide
  obtain ⟨path, rfl, known, -⟩ := Route.parse_eq_ok_iff.mp read
  obtain ⟨c, head, letter⟩ := (Option.any_eq_true _ _).mp (letters _ known)
  obtain ⟨rest, method⟩ := List.head?_eq_some_iff.mp head
  rw [toList_routeArgument, Route.render_of_parse read]
  have other : c ≠ '"' := by simpa using letter
  simp [method, literal?, other]

/-- The route of a definition in its decorator. The argument of the decorator is one literal for the
route, with nothing but the closing bracket behind it, if and only if the route has neither a quote
nor a line break and each of its backslashes stands before a character that it makes no escape
with. -/
theorem routeLiteral_exact {c : Converter String} {m : Module} {isAsync : Bool} {endpoint : String}
    {e : Endpoint} {im im' : Imports} {method : Method} (read : Route.parse s = .ok e.route)
    (run : endpointMethod c m isAsync endpoint e im = .ok (method, im')) :
    ∃ argument : String,
      (∃ others, method.decorators = ("@endpoint(" ++ argument) :: others) ∧
      (∀ w : Writer, ∃ more, (method.write w).text =
        w.text ++ (w.indentation ++ ("@endpoint(" ++ argument) ++ "\n") ++ more) ∧
      ∀ named after,
        (∃ body, literal? (argument.toList ++ after) = some (body, ')' :: after) ∧
          ∀ value, Evaluates named body value ↔ value = s.toList) ↔
        IsUnbroken s.toList ∧ KeepsBackslashes s.toList := by
  obtain ⟨others, decorators⟩ := exists_decorators_of_endpointMethod run
  have ends : Writer.EndsVisibly ("@endpoint(" ++ routeArgument e.route) := by
    rw [Writer.EndsVisibly, String.toList_append, toList_routeArgument]
    exact ⟨')', by simp [List.getLast?_cons], by decide⟩
  refine ⟨routeArgument e.route, ⟨others, decorators⟩,
    fun w => exists_text_of_decorators decorators ends, fun named after => ?_⟩
  rw [literal?_routeArgument read]
  constructor
  · rintro ⟨body, closed, verbatim⟩
    have text := Delimiter.eq_append_of_close? closed
    rw [Delimiter.quotes, List.singleton_append] at text
    obtain rfl := List.append_cancel_right text
    have keeps := evaluates_self_iff.mp verbatim
    exact ⟨(keeps.close?_iff _).mp closed, keeps⟩
  · rintro ⟨unbroken, keeps⟩
    exact ⟨s.toList, (keeps.close?_iff _).mpr unbroken, evaluates_self_iff.mpr keeps⟩

end Literals

/-! ## A service with one endpoint -/

/-- An endpoint that takes and gives nothing. -/
def plainEndpoint (r : Route) : Endpoint := ⟨r, none, none, "", ""⟩

/-- A module with one such endpoint. -/
def plainModule (r : Route) : Module :=
  ⟨"Files", "", none, none, none,
    some ⟨[("open", some (plainEndpoint r))], by simp⟩⟩

/-- A project with this module only. -/
def plainProject (r : Route) : Project :=
  ⟨⟨[("files", plainModule r)], by simp⟩⟩

/-- What converts references in the file of this module. -/
def plainConverter (r : Route) : Converter String := ⟨plainProject r, "files", backend, id⟩

theorem exists_method_plainEndpoint (r : Route) :
    ∃ method im', endpointMethod (plainConverter r) (plainModule r) false "open"
      (plainEndpoint r) (.new "files") = .ok (method, im') :=
  ⟨_, _, rfl⟩

/-- A pattern for digits: its backslash stands before a letter that begins no escape. -/
def digitsRoute : Route := ⟨"GET", [.literal "/\\d/", .param ⟨"id", ""⟩]⟩

theorem routeLiteral_exact_digits :
    Route.parse "GET /\\d/\x7bid\x7d" = .ok digitsRoute ∧
    ∃ method im' argument, endpointMethod (plainConverter digitsRoute)
        (plainModule digitsRoute) false "open" (plainEndpoint digitsRoute) (.new "files") =
          .ok (method, im') ∧
      method.decorators.head? = some ("@endpoint(" ++ argument) ∧
      ∀ named after, ∃ body, literal? (argument.toList ++ after) = some (body, ')' :: after) ∧
        ∀ value, Evaluates named body value ↔ value = "GET /\\d/\x7bid\x7d".toList := by
  have read : Route.parse "GET /\\d/\x7bid\x7d" = .ok digitsRoute := by decide
  have unbroken : IsUnbroken "GET /\\d/\x7bid\x7d".toList := by decide
  have keeps : KeepsBackslashes "GET /\\d/\x7bid\x7d".toList := by
    decide
  obtain ⟨method, im', run⟩ := exists_method_plainEndpoint digitsRoute
  obtain ⟨argument, ⟨others, decorators⟩, -, one⟩ := routeLiteral_exact read run
  refine ⟨read, method, im', argument, run, ?_, fun named after => ?_⟩
  · rw [decorators]
    rfl
  · exact (one named after).mpr ⟨unbroken, keeps⟩

/-- A route with a quote. -/
def quotedRoute : Route := ⟨"GET", [.literal "/a\"b"]⟩

/-- A quote in a route ends the literal: what stands behind it is outside. -/
theorem route_ends_early :
    Route.parse "GET /a\"b" = .ok quotedRoute ∧
    Succeeds (plainModule quotedRoute).validate ∧
    (∃ method im', endpointMethod (plainConverter quotedRoute)
        (plainModule quotedRoute) false "open" (plainEndpoint quotedRoute) (.new "files") =
          .ok (method, im') ∧
      method.decorators = ["@endpoint(\"GET /a\"b\")", "@abc.abstractmethod"]) ∧
    literal? "\"GET /a\"b\")".toList = some ("GET /a".toList, "b\")".toList) := by
  refine ⟨by decide, by decide +kernel, ⟨_, _, rfl, by decide⟩, by decide⟩

end Python

end ApiCompiler
