/-
# Writing files

A file is written at the place that its path leads to, and nothing changes elsewhere.
Directories stay directories, so a path that leads to a file goes on leading to it: the
written file is read back, and a file at another place is read as before.
-/

import BooleanRetrieval.FileTree

namespace BooleanRetrieval.FileTree

variable {tree before after : FileTree} {path : String} {content : ByteArray}

/-! ## Where paths lead -/

theorem map_eq_ok_iff {ε α β : Type} {result : Except ε α} {f : α → β} {b : β} :
    result.map f = .ok b ↔ ∃ a, result = .ok a ∧ f a = b := by
  cases result with
  | error error => simp [Except.map]
  | ok found => simp [Except.map]

/-- Names are followed by steps, each a dot, two dots or the name of a directory. -/
theorem walk_cons_eq_ok_iff {directory place : Place} {name : String} {rest : List String} :
    tree.walk directory (name :: rest) = .ok place ↔
      (name = "." ∨ name = ".." ∨ tree.lookUp directory name = .ok (some .directory)) ∧
        tree.walk (directory.step name) rest = .ok place := by
  rw [walk]
  split
  · next hdots =>
      have hdots : name = "." ∨ name = ".." := by simpa using hdots
      rw [← or_assoc, and_iff_right (Or.inl hdots)]
  · next hname =>
      have hname : name ≠ "." ∧ name ≠ ".." := by simpa using hname
      simp only [bind, Except.bind, hname, false_or]
      rcases tree.lookUp directory name with cause | _ | _ | _ <;> simp

/-- A file can be written. -/
def Writable (tree : FileTree) (path : String) : Prop :=
  ∃ content after, tree.write path content = .ok after

/-- Two trees hold the same outside the given places. -/
def SameBut (places : List Place) (before after : FileTree) : Prop :=
  ∀ place ∉ places, after.nodes[place]? = before.nodes[place]?

theorem SameBut.refl (places : List Place) (tree : FileTree) : SameBut places tree tree :=
  fun _ _ => rfl

theorem SameBut.trans {places : List Place} {middle : FileTree}
    (hfirst : SameBut places before middle) (hsecond : SameBut places middle after) :
    SameBut places before after :=
  fun place hplace => (hsecond place hplace).trans (hfirst place hplace)

theorem SameBut.mono {places others : List Place} (hsame : SameBut places before after)
    (hsubset : places ⊆ others) : SameBut others before after :=
  fun place hplace => hsame place fun hmem => hplace (hsubset hmem)

/-- What is a directory in one tree is a directory in another. -/
def KeepsDirectories (before after : FileTree) : Prop :=
  ∀ place : Place, before.nodes[place]? = some .directory →
    after.nodes[place]? = some .directory

/-- Names go on leading where they led through directories. -/
theorem KeepsDirectories.walk (hkeeps : KeepsDirectories before after) {directory place : Place}
    {names : List String} (hwalk : before.walk directory names = .ok place) :
    after.walk directory names = .ok place := by
  induction names generalizing directory with
  | nil => exact hwalk
  | cons name rest ih =>
      -- Only directories matter on the way, and they are all still there.
      obtain ⟨hname, hrest⟩ := walk_cons_eq_ok_iff.1 hwalk
      refine walk_cons_eq_ok_iff.2 ⟨hname.imp_right (Or.imp_right ?_), ih hrest⟩
      intro hfound
      rw [lookUp] at hfound ⊢
      split at hfound
      · cases hfound
      · next hfits => rw [if_neg hfits, hkeeps _ (Except.ok.inj hfound)]

end BooleanRetrieval.FileTree
