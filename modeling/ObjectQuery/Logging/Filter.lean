import ObjectQuery.Logging.Directive
import ObjectQuery.Logging.Config

/-!
Filters are sets of directives, the most specific first: longer targets before shorter ones and
before none, then those that name a span or a field. Directives that look at spans are kept apart;
one that only asks for the presence of a field is in both sets.
-/
namespace ObjectQuery

namespace Logging

structure StaticDirective where
  target : Option String
  field : Option String
  level : Threshold
  deriving DecidableEq, Repr

def lengthRank : Option String → Nat
  | none => 0
  | some s => s.utf8ByteSize + 1

def presence {α : Type} (o : Option α) : Nat := if o.isSome then 1 else 0

def orderText? (s t : Option String) : Ordering := compare (s.getD "") (t.getD "")

namespace Directive

def static? (d : Directive) : Option StaticDirective :=
  let hasValue := match d.field with
    | some f => f.value.isSome
    | none => false
  if d.span.isSome || hasValue then none
  else some ⟨d.target, d.field.map FieldTest.name, d.level⟩

def isDynamic (d : Directive) : Bool := d.span.isSome || d.field.isSome

def order (d e : Directive) : Ordering :=
  (compare (lengthRank e.target) (lengthRank d.target)).then <|
  (compare (presence e.span) (presence d.span)).then <|
  (compare (presence e.field) (presence d.field)).then <|
  (orderText? e.target d.target).then <|
  (orderText? e.span d.span).then <|
    match e.field, d.field with
    | some f, some g => f.order g
    | _, _ => .eq

def text (d : Directive) : String :=
  let field := (d.field.map fun f => "\x7b" ++ f.text ++ "\x7d").getD ""
  let scope :=
    if d.isDynamic then "[" ++ d.span.getD "" ++ field ++ "]" else ""
  let subject := d.target.getD "" ++ scope
  if d.target.isSome || d.isDynamic then subject ++ "=" ++ d.level.label else d.level.label

end Directive

namespace StaticDirective

def order (d e : StaticDirective) : Ordering :=
  (compare (lengthRank e.target) (lengthRank d.target)).then <|
  (compare (presence e.field) (presence d.field)).then <|
  (orderText? e.target d.target).then <|
  orderText? e.field d.field

def text (d : StaticDirective) : String :=
  let field := (d.field.map fun f => "[\x7b" ++ f ++ "\x7d]").getD ""
  let subject := d.target.getD "" ++ field
  if d.target.isSome || d.field.isSome then subject ++ "=" ++ d.level.label else d.level.label

end StaticDirective

def place {α : Type} (order : α → α → Ordering) (a : α) : List α → List α
  | [] => [a]
  | b :: rest => match order a b with
    | .lt => a :: b :: rest
    | .eq => a :: rest
    | .gt => b :: place order a rest

structure Filter where
  statics : List StaticDirective := []
  dynamics : List Directive := []
  deriving DecidableEq, Repr

namespace Filter

def ofDirectives (l : List Directive) : Filter :=
  let dynamics := l.filter Directive.isDynamic
  let statics := l.filter fun d => !d.isDynamic
  { statics := ((statics ++ dynamics).filterMap Directive.static?).foldl
      (fun set d => place StaticDirective.order d set) []
    dynamics := dynamics.foldl (fun set d => place Directive.order d set) [] }

def text (f : Filter) : String :=
  ",".intercalate (f.statics.map StaticDirective.text ++ f.dynamics.map Directive.text)

def pieces (s : String) : List (List Char) :=
  ((s.splitOn ",").map String.toList).filter fun piece => !piece.isEmpty

def ofText? (s : String) : Option Filter :=
  ((pieces s).mapM Directive.ofText?).map ofDirectives

/-- Reads the well-formed directives of a filter. If there are none it lets errors through. -/
def ofTextLossy (s : String) : Filter :=
  match (pieces s).filterMap Directive.ofText? with
  | [] => ofDirectives [{ level := .error }]
  | l => ofDirectives l

end Filter

end Logging

/-- The filter a program logs through. That of the environment goes before the configured one, if
there is one and it is well formed. -/
def LogConfig.filter (c : LogConfig) (environment : Option String) : Logging.Filter :=
  match environment.bind Logging.Filter.ofText? with
  | some filter => filter
  | none => .ofTextLossy c.directive

end ObjectQuery
