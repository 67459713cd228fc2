import Throttle.Binary64

/-!
# Similarity of words

Two words are similar when many of their letters match in nearly the same places and the same order.
A letter matches an equal one that stands less than half the length of the longer word away, each
letter at most once.  The similarity is the mean of three shares: of the letters of either word that
match, and of the matches that stand in order.  It is computed in double precision, each step
rounded.
-/

namespace Throttle.Text

/-- The place of the first letter from `low` up to but not including `high` that equals `c` and has
not been matched. -/
def matchPlace? (b : List Char) (matched : List Nat) (c : Char) (low high : Nat) : Option Nat :=
  (List.range b.length).find? fun j =>
    low ≤ j && j < high && b[j]? == some c && !matched.contains j

/-- The letters of `a` that match, in order, and the places in `b` that they match. -/
def matchLetters (b : List Char) (reach : Nat) :
    Nat → List Nat → List Char → List Char × List Nat
  | _, matched, [] => ([], matched)
  | i, matched, c :: a =>
    match matchPlace? b matched c (i - reach) (i + reach + 1) with
    | none => matchLetters b reach (i + 1) matched a
    | some j =>
      let (letters, matched) := matchLetters b reach (i + 1) (j :: matched) a
      (c :: letters, matched)

def share (part whole : Nat) : Binary64 := (Binary64.ofNat part).div (.ofNat whole)

/-- The similarity of two words, from zero to one. -/
def similarity (a b : String) : Binary64 :=
  let (as, bs) := (a.toList, b.toList)
  let (la, lb) := (as.length, bs.length)
  if la = 0 ∧ lb = 0 then .ofNat 1
  else
    let reach := max la lb / 2 - 1
    let (letters, places) := matchLetters bs reach 0 [] as
    let facing := (List.range lb).filterMap fun j => if places.contains j then bs[j]? else none
    let m := letters.length
    if m = 0 then .ofNat 0
    else
      let swapped := (letters.zip facing).countP (fun (c, d) => c != d) / 2
      (((share m la).add (share m lb)).add (share (m - swapped) m)).div (.ofNat 3)

end Throttle.Text
