/-!
# Padded texts

Texts filled up with spaces to a number of characters; longer texts are left as they are.

## Main definitions

* `Text.padEnd`, `Text.padStart` — spaces after a text, spaces before it.
-/

namespace Reroute.Text

/-- The spaces that a text lacks. -/
def spaces (w : Nat) (s : String) : String := String.ofList (List.replicate (w - s.length) ' ')

/-- A text with spaces after it. -/
def padEnd (w : Nat) (s : String) : String := s ++ spaces w s

/-- A text with spaces before it. -/
def padStart (w : Nat) (s : String) : String := spaces w s ++ s

theorem eq_of_mem_spaces {w : Nat} {s : String} {c : Char} (h : c ∈ (spaces w s).toList) :
    c = ' ' := by
  rw [spaces, String.toList_ofList] at h
  exact List.eq_of_mem_replicate h

@[simp] theorem length_spaces (w : Nat) (s : String) : (spaces w s).length = w - s.length := by
  simp [spaces]

@[simp] theorem length_padEnd (w : Nat) (s : String) : (padEnd w s).length = max w s.length := by
  grind [padEnd, length_spaces, String.length_append]

@[simp] theorem length_padStart (w : Nat) (s : String) :
    (padStart w s).length = max w s.length := by
  grind [padStart, length_spaces, String.length_append]

end Reroute.Text
