import Mathlib.Data.List.Basic
import Mathlib.Tactic.Common

namespace ExtUnix.Data.Atoms

/-! S-expressions that are one list of bare atoms, and what is read of one that
was printed with a blank after every atom. -/

def isBlank (char : Char) : Bool :=
  char == ' ' || char == '\t' || char == '\n' || char == '\r'

def isBare (char : Char) : Bool :=
  !isBlank char && char != '(' && char != ')' && char != '"' && char != ';'

/-- The atoms after a blank or a bracket that ends one, if one had begun. -/
def close (atom : List Char) (atoms : List (List Char)) : List (List Char) :=
  if atom = [] then atoms else atom :: atoms

def readRest (atom : List Char) : List Char → Option (List (List Char))
  | [] => none
  | char :: rest =>
      if char = ')' then
        if rest.all isBlank then some (close atom []) else none
      else if isBlank char then (readRest [] rest).map (close atom)
      else if isBare char then readRest (atom ++ [char]) rest
      else none

def read : List Char → Option (List (List Char))
  | [] => none
  | char :: rest =>
      if char = '(' then readRest [] rest
      else if isBlank char then read rest
      else none

end ExtUnix.Data.Atoms
