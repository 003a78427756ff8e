import TransitKit.Fault

/-!
# Successful outcomes

A computation of the library fails with a fault or succeeds with a value, and a sequence of them
stops at the first fault. What a successful run establishes is read off it one step at a time:
a sequence succeeds when each step does, each result of a traversal comes from an item and each
item's result is among them, a traversal or fold whose every step succeeds succeeds, and what
each step of a fold keeps holds at its end.
-/

namespace TransitKit

variable {ε α β : Type}

/-- A sequenced computation succeeds exactly when each step succeeds in turn. -/
@[simp] theorem bind_eq_ok {x : Except ε α} {f : α → Except ε β} {b : β} :
    (x >>= f) = .ok b ↔ ∃ a, x = .ok a ∧ f a = .ok b := by
  cases x <;> simp [bind, Except.bind]

@[simp] theorem pure_eq_ok {a b : α} : (pure a : Except ε α) = .ok b ↔ a = b := by
  simp [pure, Except.pure]

@[simp] theorem ok_bind {a : α} {f : α → Except ε β} : (Except.ok a >>= f) = f a := rfl

@[simp] theorem error_bind {e : ε} {f : α → Except ε β} : (Except.error e >>= f) = .error e := rfl

@[simp] theorem map_error {e : ε} {f : α → β} : (f <$> (Except.error e : Except ε α)) = .error e := rfl

@[simp] theorem map_eq_ok {e : Except ε α} {f : α → β} {b : β} :
    e.map f = .ok b ↔ ∃ a, e = .ok a ∧ f a = b := by
  cases e <;> simp [Except.map]

theorem eq_ok_of_toOption {e : Except ε α} {a : α} (h : e.toOption = some a) : e = .ok a := by
  cases e <;> simp_all [Except.toOption]

@[simp] theorem throw_eq_ok {e : ε} {b : α} : (throw e : Except ε α) = .ok b ↔ False :=
  Iff.intro (fun h => by cases h) False.elim

theorem mem_of_mapM_eq_ok {f : α → Except ε β} {xs : List α} {ys : List β}
    (h : xs.mapM f = .ok ys) : ∀ y ∈ ys, ∃ x ∈ xs, f x = .ok y := by
  induction xs generalizing ys with
  | nil =>
    cases h
    simp
  | cons x xs ih =>
    simp only [List.mapM_cons, bind_eq_ok, pure_eq_ok] at h
    obtain ⟨b, hx, bs, hxs, rfl⟩ := h
    intro y hy
    rcases List.mem_cons.mp hy with rfl | hy
    · exact ⟨x, List.mem_cons_self, hx⟩
    · obtain ⟨x', hx', hfx⟩ := ih hxs y hy
      exact ⟨x', List.mem_cons_of_mem x hx', hfx⟩

theorem mem_of_filterMapM_eq_ok {f : α → Except ε (Option β)} {xs : List α} {ys : List β}
    (h : xs.filterMapM f = .ok ys) : ∀ y ∈ ys, ∃ x ∈ xs, f x = .ok (some y) := by
  induction xs generalizing ys with
  | nil =>
    cases h
    simp
  | cons x xs ih =>
    rw [List.filterMapM_cons] at h
    simp only [bind_eq_ok] at h
    obtain ⟨b, hx, h⟩ := h
    intro y hy
    cases b with
    | none =>
      obtain ⟨x', hx', hfx⟩ := ih h y hy
      exact ⟨x', List.mem_cons_of_mem x hx', hfx⟩
    | some b =>
      simp only [bind_eq_ok, pure_eq_ok] at h
      obtain ⟨bs, hxs, rfl⟩ := h
      rcases List.mem_cons.mp hy with rfl | hy
      · exact ⟨x, List.mem_cons_self, hx⟩
      · obtain ⟨x', hx', hfx⟩ := ih hxs y hy
        exact ⟨x', List.mem_cons_of_mem x hx', hfx⟩

/-- A map that gives every item its image succeeds with the images of the list. -/
theorem mapM_eq_ok_map {f : α → Except ε β} {g : α → β} :
    ∀ {xs : List α}, (∀ x ∈ xs, f x = .ok (g x)) → xs.mapM f = .ok (xs.map g)
  | [], _ => rfl
  | x :: xs, h => by
    rw [List.mapM_cons, h x List.mem_cons_self,
      mapM_eq_ok_map fun y hy => h y (List.mem_cons_of_mem x hy)]
    rfl

/-- A map whose every result shows a view of its argument shows the views of the list. -/
theorem map_of_mapM_eq_ok {γ : Type} {f : α → Except ε β} {view : β → γ} {key : α → γ}
    (hf : ∀ x y, f x = .ok y → view y = key x) :
    ∀ {xs : List α} {ys : List β}, xs.mapM f = .ok ys → ys.map view = xs.map key
  | [], ys, h => by
    cases h
    rfl
  | x :: xs, ys, h => by
    simp only [List.mapM_cons, bind_eq_ok, pure_eq_ok] at h
    obtain ⟨y, hx, ys', hxs, rfl⟩ := h
    rw [List.map_cons, List.map_cons, hf x y hx, map_of_mapM_eq_ok hf hxs]

/-- A successful traversal gives back no result exactly when it was given no item. -/
theorem eq_nil_iff_of_mapM_eq_ok {f : α → Except ε β} {xs : List α} {ys : List β}
    (h : xs.mapM f = .ok ys) : ys = [] ↔ xs = [] := by
  have hunit : (ys.map fun _ => ()) = xs.map fun _ => () := map_of_mapM_eq_ok (fun _ _ _ => rfl) h
  have hlen := congrArg List.length hunit
  simp only [List.length_map] at hlen
  rw [← List.length_eq_zero_iff, hlen, List.length_eq_zero_iff]

/-- A map that succeeds on every item succeeds on the list. -/
theorem exists_mapM_eq_ok {f : α → Except ε β} :
    ∀ {xs : List α}, (∀ x ∈ xs, ∃ y, f x = .ok y) → ∃ ys, xs.mapM f = .ok ys
  | [], _ => ⟨[], rfl⟩
  | x :: xs, h => by
    obtain ⟨y, hy⟩ := h x List.mem_cons_self
    obtain ⟨ys, hys⟩ := exists_mapM_eq_ok fun z hz => h z (List.mem_cons_of_mem x hz)
    exact ⟨y :: ys, by rw [List.mapM_cons, hy, hys]; rfl⟩

/-- A traversal that succeeds on every item, with a result of some property whose view
agrees with the item's key, succeeds with such results, under the items' keys. -/
theorem exists_mapM_eq_ok_of_forall {γ : Type} {f : α → Except ε β} (key : α → γ) (view : β → γ)
    (P : β → Prop) :
    ∀ {xs : List α}, (∀ x ∈ xs, ∃ y, f x = .ok y ∧ view y = key x ∧ P y) →
      ∃ ys, xs.mapM f = .ok ys ∧ ys.map view = xs.map key ∧ ∀ y ∈ ys, P y
  | [], _ => ⟨[], rfl, rfl, by simp⟩
  | x :: xs, h => by
    obtain ⟨y, hy, hview, hP⟩ := h x List.mem_cons_self
    obtain ⟨ys, hys, hmap, hPs⟩ := exists_mapM_eq_ok_of_forall key view P fun z hz =>
      h z (List.mem_cons_of_mem x hz)
    refine ⟨y :: ys, by rw [List.mapM_cons, hy, hys]; rfl, by simp [hview, hmap], ?_⟩
    rintro z (_ | ⟨_, hz⟩)
    · exact hP
    · exact hPs z hz

/-- A traversal that succeeds on every item with a result of some property succeeds with
one result per item, each with the property. -/
theorem exists_mapM_eq_ok_forall {f : α → Except ε β} (P : β → Prop) {xs : List α}
    (h : ∀ x ∈ xs, ∃ y, f x = .ok y ∧ P y) :
    ∃ ys, xs.mapM f = .ok ys ∧ ys.length = xs.length ∧ ∀ y ∈ ys, P y := by
  obtain ⟨ys, hys, hmap, hP⟩ := exists_mapM_eq_ok_of_forall (fun _ => ()) (fun _ => ()) P
    fun x hx => (h x hx).imp fun _ hy => ⟨hy.1, rfl, hy.2⟩
  exact ⟨ys, hys, by simpa using congrArg List.length hmap, hP⟩

/-- Every item of a successful traversal gives one of its results. -/
theorem exists_mem_of_mapM_eq_ok {f : α → Except ε β} :
    ∀ {xs : List α} {ys : List β}, xs.mapM f = .ok ys → ∀ x ∈ xs, ∃ y ∈ ys, f x = .ok y
  | [], _, _ => by simp
  | x :: xs, ys, h => by
    simp only [List.mapM_cons, bind_eq_ok, pure_eq_ok] at h
    obtain ⟨y, hx, ys', hxs, rfl⟩ := h
    intro z hz
    rcases List.mem_cons.mp hz with rfl | hz
    · exact ⟨y, List.mem_cons_self, hx⟩
    · obtain ⟨w, hw, hzw⟩ := exists_mem_of_mapM_eq_ok hxs z hz
      exact ⟨w, List.mem_cons_of_mem y hw, hzw⟩

/-- A traversal that succeeds has succeeded on every item. -/
theorem ok_of_mapM_eq_ok {f : α → Except ε β} {xs : List α} {ys : List β}
    (h : xs.mapM f = .ok ys) (x : α) (hx : x ∈ xs) : ∃ y, f x = .ok y :=
  (exists_mem_of_mapM_eq_ok h x hx).imp fun _ hy => hy.2

/-- Every result an item gives in a successful filtering traversal is among its results. -/
theorem mem_of_filterMapM_eq_some {f : α → Except ε (Option β)} :
    ∀ {xs : List α} {ys : List β}, xs.filterMapM f = .ok ys →
      ∀ x ∈ xs, ∀ y, f x = .ok (some y) → y ∈ ys
  | [], _, _ => by simp
  | x :: xs, ys, h => by
    rw [List.filterMapM_cons] at h
    simp only [bind_eq_ok] at h
    obtain ⟨b, hx, h⟩ := h
    intro z hz y hzy
    rcases List.mem_cons.mp hz with rfl | hz
    · rw [hx] at hzy
      cases hzy
      simp only [bind_eq_ok, pure_eq_ok] at h
      obtain ⟨bs, -, rfl⟩ := h
      exact List.mem_cons_self
    · cases b with
      | none => exact mem_of_filterMapM_eq_some h z hz y hzy
      | some b =>
        simp only [bind_eq_ok, pure_eq_ok] at h
        obtain ⟨bs, hxs, rfl⟩ := h
        exact List.mem_cons_of_mem b (mem_of_filterMapM_eq_some hxs z hz y hzy)

/-- A fold whose every step fails or succeeds by its item alone, and otherwise adds what the
item gives, is a traversal of the items followed by a plain fold. -/
theorem foldlM_eq_map_mapM {γ : Type} {f : β → α → Except ε β} {g : α → Except ε γ}
    {step : β → γ → β} (hf : ∀ b a, f b a = (g a).map (step b)) :
    ∀ (xs : List α) (init : β), xs.foldlM f init = (xs.mapM g).map fun cs => cs.foldl step init
  | [], _ => rfl
  | x :: xs, init => by
    rw [List.foldlM_cons, List.mapM_cons, hf]
    cases g x with
    | error e => rfl
    | ok c =>
      show xs.foldlM f (step init c) = _
      rw [foldlM_eq_map_mapM hf xs (step init c)]
      cases xs.mapM g <;> rfl

/-- What every step of a fold keeps holds after the whole fold. -/
theorem foldlM_invariant {f : β → α → Except ε β} (P : β → Prop)
    (hstep : ∀ s a s', P s → f s a = .ok s' → P s') :
    ∀ (xs : List α) (s s' : β), P s → xs.foldlM f s = .ok s' → P s'
  | [], s, s', hs, h => by
    cases h
    exact hs
  | a :: xs, s, s', hs, h => by
    simp only [List.foldlM_cons, bind_eq_ok] at h
    obtain ⟨t, ht, h⟩ := h
    exact foldlM_invariant P hstep xs t s' (hstep s a t hs ht) h

/-- A fold whose every step, from a state with an invariant, succeeds and keeps it, succeeds. -/
theorem exists_foldlM_ok {f : β → α → Except ε β} (P : β → Prop) :
    ∀ {xs : List α} {b : β}, (∀ a ∈ xs, ∀ s, P s → ∃ s', f s a = .ok s' ∧ P s') → P b →
      ∃ s, xs.foldlM f b = .ok s ∧ P s
  | [], b, _, hb => ⟨b, rfl, hb⟩
  | a :: xs, b, hstep, hb => by
    obtain ⟨s, hs, hPs⟩ := hstep a List.mem_cons_self b hb
    obtain ⟨t, ht, hPt⟩ :=
      exists_foldlM_ok P (fun a' ha' => hstep a' (List.mem_cons_of_mem _ ha')) hPs
    exact ⟨t, by rw [List.foldlM_cons, hs, ok_bind, ht], hPt⟩

/-- A fold whose every step succeeds, succeeds. -/
theorem exists_foldlM_ok_of_forall {f : β → α → Except ε β} {xs : List α}
    (h : ∀ a ∈ xs, ∀ s, ∃ s', f s a = .ok s') (b : β) : ∃ s, xs.foldlM f b = .ok s :=
  (exists_foldlM_ok (fun _ => True) (fun a ha s _ => (h a ha s).imp fun _ h => ⟨h, trivial⟩)
    trivial).imp fun _ h => h.1

theorem exists_ok_bind {x : Except ε α} {g : α → Except ε β} (hx : ∃ a, x = .ok a)
    (hg : ∀ a, ∃ b, g a = .ok b) : ∃ b, (x >>= g) = .ok b := by
  obtain ⟨a, rfl⟩ := hx
  exact hg a

/-- A filtering map that succeeds on every item succeeds on the list. -/
theorem exists_filterMapM_ok {f : α → Except ε (Option β)} :
    ∀ {xs : List α}, (∀ x ∈ xs, ∃ y, f x = .ok y) → ∃ ys, xs.filterMapM f = .ok ys
  | [], _ => ⟨[], rfl⟩
  | x :: xs, h => by
    obtain ⟨y, hy⟩ := h x List.mem_cons_self
    obtain ⟨ys, hys⟩ := exists_filterMapM_ok fun z hz => h z (List.mem_cons_of_mem x hz)
    rw [List.filterMapM_cons, hy, ok_bind]
    cases y with
    | none => exact ⟨ys, hys⟩
    | some y => exact ⟨y :: ys, by rw [hys]; rfl⟩

end TransitKit
