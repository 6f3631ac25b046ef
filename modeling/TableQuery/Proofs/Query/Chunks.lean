import TableQuery.Proofs.Query.Passages

/-! Texts of chunks that are quiet: no keyword of a search begins in one.

A chunk is a solid run of characters or a literal in quotes. In a text of quiet chunks with single
spaces between them nothing is found, and behind it no literal is open.
-/

set_option autoImplicit false

namespace TableQuery.Query

open Text

variable {Meaning : Type} {words : List String}

/-- A chunk that is none of the words, in any letter case. -/
inductive Quiet (words : List String) : List Char → Prop
  | solid {chunk : List Char} (plain : ∀ c ∈ chunk, isSpace c = false ∧ c ≠ '\'')
      (other : ∀ word ∈ words, sameLetters word.toList chunk = false) : Quiet words chunk
  | literal {value : List Char} (free : '\'' ∉ value) : Quiet words ('\'' :: value ++ ['\''])

def spaced (chunks : List (List Char)) : List Char :=
  chunks.flatMap (' ' :: ·)

@[simp] theorem spaced_nil : spaced [] = [] := rfl

@[simp] theorem spaced_cons (chunk : List Char) (more : List (List Char)) :
    spaced (chunk :: more) = ' ' :: (chunk ++ spaced more) := rfl

@[simp] theorem spaced_append (first second : List (List Char)) :
    spaced (first ++ second) = spaced first ++ spaced second :=
  List.flatMap_append

theorem endsKeyword_spaced (chunks : List (List Char)) : endsKeyword (spaced chunks) = true := by
  cases chunks <;> rfl

theorem Quiet.passes {place : Place} {chunk rest : List Char}
    (lettered : ∀ word ∈ words, Phrase.Lettered [word]) (quiet : Quiet words chunk)
    (outside : place.inside = false) (starts : place.startsToken = true)
    (stop : ∀ c ∈ rest.head?, c.isAlpha = false) :
    Passes (singles words) place chunk rest ∧ (place.after chunk).inside = false := by
  cases quiet with
  | solid plain other =>
    have solid := fun c member => (plain c member).1
    have free := fun quote => (plain _ quote).2 rfl
    exact ⟨passes_word lettered solid other stop,
      (Place.after_inside free place).trans outside⟩
  | literal free => exact passes_literal outside starts free

theorem head?_spaced (chunks : List (List Char)) :
    ∀ c ∈ (spaced chunks ++ []).head?, c.isAlpha = false := by
  rw [List.append_nil]
  exact head?_of_endsKeyword (endsKeyword_spaced chunks)

/-- A search comes through quiet chunks, and no literal is open behind them. -/
theorem passes_spaced (lettered : ∀ word ∈ words, Phrase.Lettered [word])
    {chunks : List (List Char)} (quiet : ∀ chunk ∈ chunks, Quiet words chunk) {place : Place}
    (outside : place.inside = false) :
    Passes (singles words) place (spaced chunks) [] ∧
      (place.after (spaced chunks)).inside = false := by
  induction chunks generalizing place with
  | nil => exact ⟨trivial, outside⟩
  | cons chunk more ih =>
    rw [List.forall_mem_cons] at quiet
    have still := (Place.next_inside (c := ' ') (by decide) place).trans outside
    obtain ⟨here, closed⟩ := quiet.1.passes lettered still rfl (head?_spaced more)
    obtain ⟨later, closed'⟩ := ih quiet.2 closed
    rw [spaced_cons, Passes, passes_append_iff, Place.after_cons, Place.after_append]
    exact ⟨⟨fun _ => matchAny?_unlettered (lettered_singles lettered) rfl, here, later⟩, closed'⟩

theorem leads_spaced {keywords : List (Keyword Meaning)} (begins : Begin keywords words)
    (lettered : ∀ word ∈ words, Phrase.Lettered [word]) {front : List Char}
    (first : Quiet words front) {chunks : List (List Char)}
    (quiet : ∀ chunk ∈ chunks, Quiet words chunk) (written : Bool) :
    Leads keywords (front ++ spaced chunks) written := by
  have start : Passes (singles words) .start front (spaced chunks ++ []) ∧ _ :=
    first.passes lettered rfl rfl (head?_spaced chunks)
  obtain ⟨passes, closed⟩ := start
  obtain ⟨later, closed'⟩ := passes_spaced lettered quiet closed
  constructor
  · exact passes_iff_findFrom?.1 ((passes_append_iff.2 ⟨passes, later⟩).of_singles begins)
  · intro _
    rw [Closed, Place.after_append]
    exact closed'

end TableQuery.Query
