/-!
Interleavings of two lists of inputs to one machine. Where any input of the first list commutes
with any of the second, so do the lists: however they are interleaved, each input is answered as
if the first list had come before the second, and the machine ends in the same state, as far as
what is compared of it goes.
-/
namespace ObjectQuery

inductive Interleaves {α : Type} : List α → List α → List α → Prop where
  | nil : Interleaves [] [] []
  | left {xs ys zs : List α} (a : α) (rest : Interleaves xs ys zs) :
      Interleaves (a :: xs) ys (a :: zs)
  | right {xs ys zs : List α} (b : α) (rest : Interleaves xs ys zs) :
      Interleaves xs (b :: ys) (b :: zs)

theorem Interleaves.map {α β : Type} {xs ys zs : List α} (f : α → β)
    (mixed : Interleaves xs ys zs) : Interleaves (xs.map f) (ys.map f) (zs.map f) := by
  induction mixed with
  | nil => exact .nil
  | left a rest ih => exact .left (f a) ih
  | right b rest ih => exact .right (f b) ih

theorem Interleaves.mem {α : Type} {xs ys zs : List α} (mixed : Interleaves xs ys zs) {c : α}
    (member : c ∈ zs) : c ∈ xs ∨ c ∈ ys := by
  induction mixed with
  | nil => contradiction
  | left a rest ih =>
    rcases List.mem_cons.mp member with rfl | later
    · exact Or.inl List.mem_cons_self
    · rcases ih later with first | second
      · exact Or.inl (List.mem_cons_of_mem a first)
      · exact Or.inr second
  | right b rest ih =>
    rcases List.mem_cons.mp member with rfl | later
    · exact Or.inr List.mem_cons_self
    · rcases ih later with first | second
      · exact Or.inl first
      · exact Or.inr (List.mem_cons_of_mem b second)

section Machine

variable {σ α β τ : Type} (step : σ → α → β × σ)

def dialogue (s : σ) : List α → List (α × β)
  | [] => []
  | a :: rest => (a, (step s a).1) :: dialogue (step s a).2 rest

def leaves (s : σ) (inputs : List α) : σ := inputs.foldl (fun s a => (step s a).2) s

@[simp] theorem dialogue_cons (s : σ) (a : α) (rest : List α) :
    dialogue step s (a :: rest) = (a, (step s a).1) :: dialogue step (step s a).2 rest := rfl

@[simp] theorem leaves_cons (s : σ) (a : α) (rest : List α) :
    leaves step s (a :: rest) = leaves step (step s a).2 rest := rfl

/-- From a sound state, an input of the one kind and an input of the other are answered alike in
either order, and the states they lead to show the same. What a state does not show has no bearing
on the answers and on what is shown later. -/
structure Independent (shows : σ → τ) (sound : σ → Prop) (one two : α → Prop) : Prop where
  kept : ∀ s a, sound s → one a ∨ two a → sound (step s a).2
  blind : ∀ s t a, sound s → sound t → shows s = shows t → one a ∨ two a →
    (step s a).1 = (step t a).1 ∧ shows (step s a).2 = shows (step t a).2
  first : ∀ s a b, sound s → one a → two b → (step (step s b).2 a).1 = (step s a).1
  second : ∀ s a b, sound s → one a → two b → (step (step s a).2 b).1 = (step s b).1
  joined : ∀ s a b, sound s → one a → two b →
    shows (step (step s b).2 a).2 = shows (step (step s a).2 b).2

namespace Independent

variable {step : σ → α → β × σ} {shows : σ → τ} {sound : σ → Prop} {one two : α → Prop} {s t : σ}

theorem sound_leaves (independent : Independent step shows sound one two) (start : sound s)
    {inputs : List α} (kinds : ∀ a ∈ inputs, one a ∨ two a) : sound (leaves step s inputs) := by
  induction inputs generalizing s with
  | nil => exact start
  | cons a rest ih =>
    rw [List.forall_mem_cons] at kinds
    exact ih (independent.kept s a start kinds.1) kinds.2

theorem same_shown (independent : Independent step shows sound one two) (start : sound s)
    (start' : sound t) (same : shows s = shows t) {inputs : List α}
    (kinds : ∀ a ∈ inputs, one a ∨ two a) : dialogue step s inputs = dialogue step t inputs ∧
      shows (leaves step s inputs) = shows (leaves step t inputs) := by
  induction inputs generalizing s t with
  | nil => exact ⟨rfl, same⟩
  | cons a rest ih =>
    rw [List.forall_mem_cons] at kinds
    obtain ⟨answer, next⟩ := independent.blind s t a start start' same kinds.1
    obtain ⟨answers, last⟩ := ih (independent.kept s a start kinds.1)
      (independent.kept t a start' kinds.1) next kinds.2
    rw [dialogue_cons, dialogue_cons, answer, answers]
    exact ⟨rfl, last⟩

/-- An input of the second kind may as well wait until all those of the first are through. -/
theorem past (independent : Independent step shows sound one two) (start : sound s) {b : α}
    (other : two b) {inputs : List α} (kind : ∀ a ∈ inputs, one a) :
    dialogue step (step s b).2 inputs = dialogue step s inputs ∧
    (step (leaves step s inputs) b).1 = (step s b).1 ∧
    shows (leaves step (step s b).2 inputs) = shows (step (leaves step s inputs) b).2 := by
  induction inputs generalizing s with
  | nil => exact ⟨rfl, rfl, rfl⟩
  | cons a rest ih =>
    rw [List.forall_mem_cons] at kind
    obtain ⟨own, kind⟩ := kind
    have after_a := independent.kept s a start (Or.inl own)
    have after_b := independent.kept s b start (Or.inr other)
    have swapped := independent.same_shown
      (independent.kept (step s b).2 a after_b (Or.inl own))
      (independent.kept (step s a).2 b after_a (Or.inr other))
      (independent.joined s a b start own other) fun c member => Or.inl (kind c member)
    obtain ⟨answers, answer, last⟩ := ih after_a kind
    refine ⟨?_, ?_, ?_⟩
    · rw [dialogue_cons, dialogue_cons, independent.first s a b start own other, swapped.1, answers]
    · rw [leaves_cons, answer, independent.second s a b start own other]
    · rw [leaves_cons, leaves_cons, swapped.2, last]

theorem interleaved (independent : Independent step shows sound one two) (start : sound s)
    {xs ys zs : List α} (mixed : Interleaves xs ys zs) (first : ∀ a ∈ xs, one a)
    (second : ∀ b ∈ ys, two b) :
    Interleaves (dialogue step s xs) (dialogue step (leaves step s xs) ys) (dialogue step s zs) ∧
    shows (leaves step s zs) = shows (leaves step s (xs ++ ys)) := by
  induction mixed generalizing s with
  | nil => exact ⟨.nil, rfl⟩
  | left a rest ih =>
    rw [List.forall_mem_cons] at first
    obtain ⟨answers, last⟩ := ih (independent.kept s a start (Or.inl first.1)) first.2 second
    exact ⟨.left _ answers, last⟩
  | @right xs ys zs b rest ih =>
    rw [List.forall_mem_cons] at second
    obtain ⟨other, later⟩ := second
    have after_b := independent.kept s b start (Or.inr other)
    have through := independent.sound_leaves start fun a member => Or.inl (first a member)
    have through' := independent.sound_leaves after_b fun a member => Or.inl (first a member)
    obtain ⟨answers, last⟩ := ih after_b first later
    -- What the rest says of the state after b is carried over to the state before it, where the
    -- first list runs without b and b comes right after.
    obtain ⟨unmoved, answer, met⟩ := independent.past start other first
    have moved := independent.same_shown through'
      (independent.kept _ b through (Or.inr other)) met fun c member => Or.inr (later c member)
    constructor
    · rw [unmoved, moved.1] at answers
      rw [dialogue_cons, dialogue_cons, answer]
      exact .right _ answers
    · rw [leaves_cons, last]
      simp only [leaves, List.foldl_append, List.foldl_cons] at moved ⊢
      exact moved.2

end Independent

end Machine

end ObjectQuery
