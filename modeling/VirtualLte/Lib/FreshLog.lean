import Mathlib.Tactic.Common

/-!
# Logs of numbered uses of keys

Each entry of a log uses a key at a number.  A log is fresh when no key is used twice
at one number.

* `Fresh` is that property, `Below k n` says that every use of `k` so far was at a
  number below `n`.
* `Fresh.cons`: a use at a number that all uses of the key are below keeps a log
  fresh.  A counter per key therefore only has to keep `Below`, and does so as long as
  it moves up and a key starts where its uses end.
-/

namespace FreshLog

variable {E K : Type} (key : E → K) (number : E → Nat)

/-- No key is used twice at one number. -/
def Fresh (log : List E) : Prop :=
  log.Pairwise fun a b => key a = key b → number a ≠ number b

/-- Every use of `k` was at a number below `n`. -/
def Below (log : List E) (k : K) (n : Nat) : Prop :=
  ∀ e ∈ log, key e = k → number e < n

variable {key number} {log : List E} {e : E} {k : K} {m n : Nat}

theorem fresh_nil : Fresh key number [] := List.Pairwise.nil

theorem below_nil : Below key number [] k n := nofun

theorem Fresh.cons (h : Fresh key number log) (hbelow : Below key number log (key e) (number e)) :
    Fresh key number (e :: log) := by
  refine List.Pairwise.cons ?_ h
  intro a ha hkey hnumber
  have hlt := hbelow a ha hkey.symm
  omega

theorem Below.cons (h : Below key number log k n) (he : key e = k → number e < n) :
    Below key number (e :: log) k n := by
  intro a ha hkey
  cases ha with
  | head => exact he hkey
  | tail _ ha => exact h a ha hkey

theorem Below.mono (h : Below key number log k m) (hle : m ≤ n) : Below key number log k n :=
  fun e he hkey => Nat.lt_of_lt_of_le (h e he hkey) hle

end FreshLog
