/-! The levels of a filter, by number or by name. -/
namespace ObjectQuery.Logging

inductive Threshold where
  | off
  | error
  | warn
  | info
  | debug
  | trace
  deriving DecidableEq, Repr, Inhabited

namespace Threshold

def all : List Threshold := [off, error, warn, info, debug, trace]

def label : Threshold → String
  | off => "off"
  | error => "error"
  | warn => "warn"
  | info => "info"
  | debug => "debug"
  | trace => "trace"

end Threshold

def natural? (s : List Char) : Option Nat :=
  let digits := match s with
    | '+' :: rest => rest
    | _ => s
  if digits.isEmpty || !digits.all Char.isDigit then none
  else some (digits.foldl (fun n c => n * 10 + (c.toNat - '0'.toNat)) 0)

/-- A level by its number or by its name in letters of either case. The empty text is the level of
errors. -/
def Threshold.ofText? (s : String) : Option Threshold :=
  match (natural? s.toList).bind fun n => all[n]? with
  | some t => some t
  | none =>
    if s.isEmpty then some error
    else
      let name := s.toList.map Char.toLower
      all.find? fun t => t.label.toList == name

end ObjectQuery.Logging
