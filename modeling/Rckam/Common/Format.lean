import Mathlib.Tactic.Common

/-! `boost::format`, for the directives that the error messages have: a percent sign and a letter.
Two percent signs stand for one. -/
namespace Rckam

inductive FormatError where
  | tooManyArgs | tooFewArgs
  deriving DecidableEq, Repr

namespace Format

/-- The number of arguments that a format has places for. -/
def directives : List Char → ℕ
  | '%' :: '%' :: rest => directives rest
  | '%' :: _ :: rest => directives rest + 1
  | _ :: rest => directives rest
  | [] => 0

def fill : List Char → List String → List Char
  | '%' :: '%' :: rest, args => '%' :: fill rest args
  | '%' :: _ :: rest, a :: args => a.toList ++ fill rest args
  | c :: rest, args => c :: fill rest args
  | [], _ => []

/-- An argument without a place throws when it is fed. A place without an argument throws when the
text is asked for. -/
def str (format : String) (args : List String) : Except FormatError String :=
  if directives format.toList < args.length then .error .tooManyArgs
  else if args.length < directives format.toList then .error .tooFewArgs
  else .ok (String.ofList (fill format.toList args))

theorem str_tooMany {format : String} {args : List String}
    (h : directives format.toList < args.length) : str format args = .error .tooManyArgs :=
  if_pos h

end Format

end Rckam
