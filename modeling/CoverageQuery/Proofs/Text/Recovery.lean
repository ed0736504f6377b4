import CoverageQuery.Text.Joined

/-!
# Texts that can be told apart

What is written in front of other text can be read back if nothing that may follow makes it look
like something else. `Recovers` states this of two texts; a run of characters of one kind, rows
one after the other and joined texts have it when their parts do.
-/

namespace CoverageQuery.Text

/-- The text is empty or its first character satisfies `p`. -/
def Opens (p : Char → Prop) (text : List Char) : Prop := ∀ c ∈ text.head?, p c

@[simp] theorem opens_nil (p : Char → Prop) : Opens p [] := by simp [Opens]

@[simp] theorem opens_cons (p : Char → Prop) (c : Char) (text : List Char) :
    Opens p (c :: text) ↔ p c := by simp [Opens]

theorem Opens.imp {p q : Char → Prop} {text : List Char} (h : Opens p text)
    (hpq : ∀ c, p c → q c) : Opens q text :=
  fun c hc => hpq c (h c hc)

theorem opens_append {p : Char → Prop} {front text : List Char} (hfront : ∀ c ∈ front, p c)
    (htext : Opens p text) : Opens p (front ++ text) := by
  cases front with
  | nil => exact htext
  | cons c front => exact (opens_cons p c _).mpr (hfront c (List.mem_cons_self ..))

/-- The text has a first character, and it satisfies `p`. -/
def Begins (p : Char → Prop) (text : List Char) : Prop := ∃ c rest, text = c :: rest ∧ p c

theorem Begins.append {p : Char → Prop} {front : List Char} (h : Begins p front)
    (text : List Char) : Begins p (front ++ text) := by
  obtain ⟨c, rest, rfl, hc⟩ := h
  exact ⟨c, rest ++ text, rfl, hc⟩

theorem Begins.imp {p q : Char → Prop} {text : List Char} (h : Begins p text)
    (hpq : ∀ c, p c → q c) : Begins q text := by
  obtain ⟨c, rest, rfl, hc⟩ := h
  exact ⟨c, rest, rfl, hpq c hc⟩

theorem Begins.opens {p : Char → Prop} {text : List Char} (h : Begins p text) : Opens p text := by
  obtain ⟨c, rest, rfl, hc⟩ := h
  exact (opens_cons p c rest).mpr hc

theorem begins_of_forall {p : Char → Prop} {text : List Char} (hne : text ≠ [])
    (hall : ∀ c ∈ text, p c) : Begins p text := by
  cases text with
  | nil => exact absurd rfl hne
  | cons c rest => exact ⟨c, rest, rfl, hall c (List.mem_cons_self ..)⟩

/-- Texts of which one must and the other cannot begin with such a character differ. -/
theorem Begins.ne {p q : Char → Prop} {x y : List Char} (hx : Begins p x) (hy : Opens q y)
    (hpq : ∀ c, p c → ¬q c) : x ≠ y := by
  obtain ⟨c, rest, rfl, hc⟩ := hx
  rintro rfl
  exact hpq c hc ((opens_cons q c rest).mp hy)

theorem takeWhile_run {p : Char → Bool} {front text : List Char} (hfront : ∀ c ∈ front, p c = true)
    (htext : Opens (p · = false) text) : (front ++ text).takeWhile p = front := by
  rw [List.takeWhile_append_of_pos hfront]
  cases text with
  | nil => simp
  | cons c text => simp [(opens_cons _ c text).mp htext]

theorem dropWhile_run {p : Char → Bool} {front text : List Char} (hfront : ∀ c ∈ front, p c = true)
    (htext : Opens (p · = false) text) : (front ++ text).dropWhile p = text := by
  rw [List.dropWhile_append_of_pos hfront]
  cases text with
  | nil => simp
  | cons c text => simp [(opens_cons _ c text).mp htext]

theorem forall_takeWhile (p : Char → Bool) (text : List Char) :
    ∀ c ∈ text.takeWhile p, p c = true :=
  List.all_eq_true.mp List.all_takeWhile

/-- Two texts, each with more after it that begins as `follow` allows, are one text only if `same`
holds and what comes after them is one text. -/
def Recovers (follow : Char → Prop) (x y : List Char) (same : Prop) : Prop :=
  ∀ s t, Opens follow s → Opens follow t → x ++ s = y ++ t → same ∧ s = t

namespace Recovers

variable {follow : Char → Prop} {x y : List Char} {same : Prop}

theorem imp {other : Prop} (h : Recovers follow x y same) (himp : same → other) :
    Recovers follow x y other := by
  intro s t hs ht heq
  obtain ⟨hsame, hst⟩ := h s t hs ht heq
  exact ⟨himp hsame, hst⟩

theorem restrict {narrow : Char → Prop} (h : Recovers follow x y same)
    (hnarrow : ∀ c, narrow c → follow c) : Recovers narrow x y same := by
  intro s t hs ht heq
  exact h s t (hs.imp hnarrow) (ht.imp hnarrow) heq

theorem symm (h : Recovers follow x y same) : Recovers follow y x same := by
  intro s t hs ht heq
  obtain ⟨hsame, hst⟩ := h t s ht hs heq.symm
  exact ⟨hsame, hst.symm⟩

/-- One character after both texts fixes where they end. -/
theorem before (h : Recovers follow x y same) {c : Char} (hc : follow c) {s t : List Char}
    (heq : x ++ c :: s = y ++ c :: t) : same ∧ s = t := by
  obtain ⟨hsame, hst⟩ := h _ _ ((opens_cons _ _ _).mpr hc) ((opens_cons _ _ _).mpr hc) heq
  exact ⟨hsame, (List.cons.inj hst).2⟩

theorem of_begins {p q : Char → Prop} (hx : Begins p x) (hy : Begins q y)
    (hpq : ∀ c, p c → ¬q c) : Recovers follow x y same := by
  intro s t _ _ heq
  exact absurd heq ((hx.append s).ne (hy.append t).opens hpq)

end Recovers

/-- A run of characters of one kind ends where a character of another kind begins. -/
theorem recovers_run {p : Char → Bool} {x y : List Char} (hx : ∀ c ∈ x, p c = true)
    (hy : ∀ c ∈ y, p c = true) : Recovers (p · = false) x y (x = y) := by
  intro s t hs ht heq
  have htake := congrArg (List.takeWhile p) heq
  have hdrop := congrArg (List.dropWhile p) heq
  rw [takeWhile_run hx hs, takeWhile_run hy ht] at htake
  rw [dropWhile_run hx hs, dropWhile_run hy ht] at hdrop
  exact ⟨htake, hdrop⟩

section Lists

variable {α β : Type} {follow : Char → Prop} {write : α → List Char} {key : α → β}

theorem opens_rows {mark : Char} (hmark : follow mark) {xs : List α}
    (hx : ∀ x ∈ xs, Begins (· = mark) (write x)) {text : List Char} (htext : Opens follow text) :
    Opens follow (xs.flatMap write ++ text) := by
  cases xs with
  | nil => exact htext
  | cons x xs =>
    rw [List.flatMap_cons, List.append_assoc]
    refine ((hx x (List.mem_cons_self ..)).append _).opens.imp ?_
    rintro c rfl
    exact hmark

/-- Rows that all begin with one character can be counted and read back one by one, if what comes
after the last of them begins with another. -/
theorem recovers_rows {mark : Char} (hmark : follow mark) (xs ys : List α)
    (hx : ∀ x ∈ xs, Begins (· = mark) (write x)) (hy : ∀ y ∈ ys, Begins (· = mark) (write y))
    (hrow : ∀ x ∈ xs, ∀ y ∈ ys, Recovers follow (write x) (write y) (key x = key y)) :
    Recovers (fun c => follow c ∧ c ≠ mark) (xs.flatMap write) (ys.flatMap write)
      (xs.map key = ys.map key) := by
  induction xs generalizing ys with
  | nil =>
    intro s t hs ht heq
    cases ys with
    | nil => exact ⟨rfl, heq⟩
    | cons y ys =>
      rw [List.flatMap_cons, List.append_assoc] at heq
      exact absurd heq.symm (((hy y (List.mem_cons_self ..)).append _).ne hs
        fun c hc hns => hns.2 hc)
  | cons x xs ih =>
    intro s t hs ht heq
    cases ys with
    | nil =>
      rw [List.flatMap_cons, List.append_assoc] at heq
      exact absurd heq (((hx x (List.mem_cons_self ..)).append _).ne ht
        fun c hc hnt => hnt.2 hc)
    | cons y ys =>
      rw [List.forall_mem_cons] at hx hy
      rw [List.flatMap_cons, List.flatMap_cons, List.append_assoc, List.append_assoc] at heq
      obtain ⟨hkey, heq⟩ := hrow x (List.mem_cons_self ..) y (List.mem_cons_self ..) _ _
        (opens_rows hmark hx.2 (hs.imp fun _ h => h.1))
        (opens_rows hmark hy.2 (ht.imp fun _ h => h.1)) heq
      obtain ⟨hkeys, hst⟩ := ih ys hx.2 hy.2
        (fun z hz w hw => hrow z (List.mem_cons_of_mem _ hz) w (List.mem_cons_of_mem _ hw))
        s t hs ht heq
      exact ⟨by rw [List.map_cons, List.map_cons, hkey, hkeys], hst⟩

theorem joined_map_cons (separator : List Char) (x : α) (xs : List α) :
    joined separator ((x :: xs).map write) =
      write x ++ xs.flatMap fun y => separator ++ write y := by
  induction xs generalizing x with
  | nil => simp
  | cons y ys ih =>
    rw [List.map_cons, List.map_cons, joined_cons_cons, ← List.map_cons, ih y,
      List.flatMap_cons, List.append_assoc, List.append_assoc]

/-- Joined texts can be read back, if what comes after them begins neither as the separator nor as
one of them. -/
theorem recovers_joined {mark : Char} {separator : List Char} {start : Char → Prop}
    (hmark : follow mark) (xs ys : List α)
    (hx : ∀ x ∈ xs, Begins start (write x)) (hy : ∀ y ∈ ys, Begins start (write y))
    (hitem : ∀ x ∈ xs, ∀ y ∈ ys, Recovers follow (write x) (write y) (key x = key y)) :
    Recovers (fun c => follow c ∧ c ≠ mark ∧ ¬start c) (joined (mark :: separator) (xs.map write))
      (joined (mark :: separator) (ys.map write)) (xs.map key = ys.map key) := by
  intro s t hs ht heq
  have hmarked : ∀ zs : List α, ∀ z ∈ zs, Begins (· = mark) (mark :: separator ++ write z) :=
    fun _ z _ => ⟨mark, separator ++ write z, rfl, rfl⟩
  cases xs with
  | nil =>
    cases ys with
    | nil => exact ⟨rfl, heq⟩
    | cons y ys =>
      rw [joined_map_cons, List.append_assoc] at heq
      exact absurd heq.symm (((hy y (List.mem_cons_self ..)).append _).ne hs
        fun c hc hns => hns.2.2 hc)
  | cons x xs =>
    cases ys with
    | nil =>
      rw [joined_map_cons, List.append_assoc] at heq
      exact absurd heq (((hx x (List.mem_cons_self ..)).append _).ne ht
        fun c hc hnt => hnt.2.2 hc)
    | cons y ys =>
      rw [joined_map_cons, joined_map_cons, List.append_assoc, List.append_assoc] at heq
      obtain ⟨hkey, heq⟩ := hitem x (List.mem_cons_self ..) y (List.mem_cons_self ..) _ _
        (opens_rows hmark (hmarked xs) (hs.imp fun _ h => h.1))
        (opens_rows hmark (hmarked ys) (ht.imp fun _ h => h.1)) heq
      have hrows := recovers_rows hmark xs ys (hmarked xs) (hmarked ys)
        (fun z hz w hw s t hs ht heq =>
          hitem z (List.mem_cons_of_mem _ hz) w (List.mem_cons_of_mem _ hw) s t hs ht
            (by simpa [List.append_assoc] using heq))
      obtain ⟨hkeys, hst⟩ := hrows s t (hs.imp fun c h => ⟨h.1, h.2.1⟩)
        (ht.imp fun c h => ⟨h.1, h.2.1⟩) heq
      exact ⟨by rw [List.map_cons, List.map_cons, hkey, hkeys], hst⟩

end Lists

end CoverageQuery.Text
