import Mathlib.Logic.Relation

/-!
# Programs that issue calls, and the surroundings that answer them

A thread is a `Prog`: it ends with a value, or issues a call and goes on with the answer, or
repeats a body for as long as a test call is answered with yes.  Nothing is said here about what a
call does.  That is the part of a `World`: which calls may be issued in which state (`allowed`),
what a call may answer and leave behind (`step`), and what the surroundings may do on their own
between two calls of the thread (`move`).

* `Step`, `Reaches`: one move of the thread or of its surroundings, and any number of them.
* `wp E p Q w`: from `w`, every call that `p` comes to issue is allowed, and whenever `p` ends its
  value and the state it leaves satisfy `Q` (`wp_reaches`, `wp_allowed`).
* `Prog.play`: one run, with given answers, computed; `Prog.Ends`, `Prog.Issues`: what a run with given
  answers comes to, without the state of a world; `Prog.Returns`: the same for a program without loops, whatever
  the answers are.
* `Boundary`, `During`: the states of a thread that runs `start` once and then `iter` for ever, at
  the end of a round and inside of one; `boundary_inv` and `during_wp` are their induction rule.

* `World.Follows`: a second world with the same answers; it has the same runs (`World.Follows.during`).

A `Sequential` world never moves on its own, and the rules for calls become plain equations.
-/

namespace Interaction

/-- A program over the calls `C`; the answer to `c` is an `A c`. -/
inductive Prog (C : Type) (A : C → Type) : Type → Type 1
  | ret {α : Type} (a : α) : Prog C A α
  | call {α : Type} (c : C) (k : A c → Prog C A α) : Prog C A α
  /-- `while (test c) body; k`, with the call `c` issued anew before each round. -/
  | loop {α : Type} (c : C) (test : A c → Bool) (body : Prog C A Unit) (k : Prog C A α) :
      Prog C A α

namespace Prog

variable {C : Type} {A : C → Type} {α β : Type}

def bind : Prog C A α → (α → Prog C A β) → Prog C A β
  | .ret a, f => f a
  | .call c k, f => .call c fun x => (k x).bind f
  | .loop c t b k, f => .loop c t b (k.bind f)

instance : Monad (Prog C A) where
  pure := .ret
  bind := Prog.bind

/-- Issue `c` and return its answer. -/
def issue (c : C) : Prog C A (A c) := .call c .ret

/-- The call the program is about to issue. -/
def next? : Prog C A α → Option C
  | .ret _ => none
  | .call c _ => some c
  | .loop c _ _ _ => some c

end Prog

/-- What surrounds a thread. -/
structure World (C : Type) (A : C → Type) (W : Type) where
  allowed : W → C → Prop
  step : W → (c : C) → A c → W → Prop
  move : W → W → Prop

variable {C : Type} {A : C → Type} {W α β S : Type}

namespace World

/-- Any number of moves of the surroundings. -/
def Moves (E : World C A W) : W → W → Prop := Relation.ReflTransGen E.move

/-- Surroundings that never move on their own. -/
class Sequential (E : World C A W) : Prop where
  no_move : ∀ w w', ¬ E.move w w'

theorem Moves.refl {E : World C A W} {w : W} : E.Moves w w := Relation.ReflTransGen.refl

@[simp] theorem moves_iff_eq (E : World C A W) [E.Sequential] (w w' : W) :
    E.Moves w w' ↔ w' = w := by
  constructor
  · intro h
    induction h with
    | refl => rfl
    | tail _ hm _ => exact absurd hm (Sequential.no_move _ _)
  · rintro rfl; exact Moves.refl

/-- What every single move keeps, any number of moves keeps. -/
theorem Moves.keeps {E : World C A W} {I : W → Prop} (hI : ∀ w w', I w → E.move w w' → I w')
    {w w' : W} (h : E.Moves w w') (hw : I w) : I w' := by
  induction h with
  | refl => exact hw
  | tail _ hm ih => exact hI _ _ ih hm

end World

/-- One move of the thread `p` or of its surroundings. -/
inductive Step (E : World C A W) : Prog C A α × W → Prog C A α × W → Prop
  | call {c : C} {k : A c → Prog C A α} {a : A c} {w w' : W} :
      E.step w c a w' → Step E (.call c k, w) (k a, w')
  | again {c : C} {t : A c → Bool} {b : Prog C A Unit} {k : Prog C A α} {a : A c} {w w' : W} :
      E.step w c a w' → t a = true → Step E (.loop c t b k, w) (b.bind fun _ => .loop c t b k, w')
  | leave {c : C} {t : A c → Bool} {b : Prog C A Unit} {k : Prog C A α} {a : A c} {w w' : W} :
      E.step w c a w' → t a = false → Step E (.loop c t b k, w) (k, w')
  | move {p : Prog C A α} {w w' : W} : E.move w w' → Step E (p, w) (p, w')

def Reaches (E : World C A W) : Prog C A α × W → Prog C A α × W → Prop :=
  Relation.ReflTransGen (Step E)

/-! ## Weakest preconditions -/

/-- Every call of `p` is allowed when it is issued, and `p` ends only in `Q`.  The surroundings
may move before each call and after the last one; a loop carries an invariant. -/
def wp (E : World C A W) : {α : Type} → Prog C A α → (α → W → Prop) → W → Prop
  | _, .ret a, Q, w => ∀ w₁, E.Moves w w₁ → Q a w₁
  | _, .call c k, Q, w => ∀ w₁, E.Moves w w₁ →
      E.allowed w₁ c ∧ ∀ a w', E.step w₁ c a w' → wp E (k a) Q w'
  | _, .loop c t b k, Q, w => ∃ I : W → Prop, I w ∧ ∀ w₀ w₁, I w₀ → E.Moves w₀ w₁ →
      E.allowed w₁ c ∧ ∀ a w', E.step w₁ c a w' →
        (t a = true → wp E b (fun _ => I) w') ∧ (t a = false → wp E k Q w')

theorem wp_mono {E : World C A W} {p : Prog C A α} {Q R : α → W → Prop} (hQ : ∀ a w, Q a w → R a w)
    {w : W} (h : wp E p Q w) : wp E p R w := by
  induction p generalizing w with
  | ret a => exact fun w₁ hm => hQ _ _ (h w₁ hm)
  | call c k ih => exact fun w₁ hm => ⟨(h w₁ hm).1, fun a w' hs => ih a hQ ((h w₁ hm).2 a w' hs)⟩
  | loop c t b k _ ihk =>
    obtain ⟨I, hI, hstep⟩ := h
    refine ⟨I, hI, fun w₀ w₁ h0 hm => ⟨(hstep w₀ w₁ h0 hm).1, fun a w' hs => ?_⟩⟩
    have := (hstep w₀ w₁ h0 hm).2 a w' hs
    exact ⟨this.1, fun ht => ihk hQ (this.2 ht)⟩

/-- A precondition survives the moves of the surroundings. -/
theorem wp_moves {E : World C A W} {p : Prog C A α} {Q : α → W → Prop} {w w' : W}
    (h : wp E p Q w) (hm : E.Moves w w') : wp E p Q w' := by
  cases p with
  | ret a => exact fun w₁ h1 => h w₁ (hm.trans h1)
  | call c k => exact fun w₁ h1 => h w₁ (hm.trans h1)
  | loop c t b k =>
    obtain ⟨I, hI, hstep⟩ := h
    exact ⟨fun w₁ => ∃ w₀, I w₀ ∧ E.Moves w₀ w₁, ⟨w, hI, hm⟩, fun w₁ w₂ ⟨w₀, h0, h01⟩ h12 => by
      refine ⟨(hstep w₀ w₂ h0 (h01.trans h12)).1, fun a w₃ hs => ?_⟩
      obtain ⟨ht, hf⟩ := (hstep w₀ w₂ h0 (h01.trans h12)).2 a w₃ hs
      exact ⟨fun h => wp_mono (fun _ v hv => ⟨v, hv, World.Moves.refl⟩) (ht h), hf⟩⟩

theorem wp_bind' {E : World C A W} {p : Prog C A α} {f : α → Prog C A β} {Q : β → W → Prop} {w : W} :
    wp E (p.bind f) Q w ↔ wp E p (fun a => wp E (f a) Q) w := by
  induction p generalizing w with
  | ret a =>
    exact ⟨fun h w₁ hm => wp_moves h hm, fun h => h w World.Moves.refl⟩
  | call c k ih => simp only [Prog.bind, wp, ih]
  | loop c t b k _ ihk => simp only [Prog.bind, wp, ihk]

@[simp] theorem wp_bind {E : World C A W} {p : Prog C A α} {f : α → Prog C A β} {Q : β → W → Prop}
    {w : W} : wp E (p >>= f) Q w ↔ wp E p (fun a => wp E (f a) Q) w := wp_bind'

/-- The rule of sequencing. -/
theorem wp_seq {E : World C A W} {p : Prog C A α} {f : α → Prog C A β} {R : α → W → Prop}
    {Q : β → W → Prop} {w : W} (hp : wp E p R w) (hf : ∀ a w, R a w → wp E (f a) Q w) :
    wp E (p >>= f) Q w := wp_bind.2 (wp_mono hf hp)

@[simp] theorem wp_ite {E : World C A W} {c : Prop} [Decidable c] {p q : Prog C A α} {Q : α → W → Prop}
    {w : W} : wp E (if c then p else q) Q w ↔ (c → wp E p Q w) ∧ (¬ c → wp E q Q w) := by
  split <;> simp_all

section Sequential

variable (E : World C A W) [E.Sequential]

@[simp] theorem wp_ret (a : α) (Q : α → W → Prop) (w : W) : wp E (.ret a) Q w ↔ Q a w := by
  simp [wp]

@[simp] theorem wp_pure (a : α) (Q : α → W → Prop) (w : W) : wp E (pure a) Q w ↔ Q a w :=
  wp_ret E a Q w

@[simp] theorem wp_issue (c : C) (Q : A c → W → Prop) (w : W) :
    wp E (Prog.issue c) Q w ↔ E.allowed w c ∧ ∀ a w', E.step w c a w' → Q a w' := by
  simp [Prog.issue, wp]

/-- One call, and then the rest. -/
theorem wp_call {c : C} {k : A c → Prog C A α} {Q : α → W → Prop} {w : W} (hc : E.allowed w c)
    (hk : ∀ a w', E.step w c a w' → wp E (k a) Q w') : wp E (Prog.issue c >>= k) Q w :=
  wp_bind.2 ((wp_issue E c _ w).2 ⟨hc, hk⟩)

/-- The loop rule: an invariant that the test and the body keep. -/
theorem wp_loop {c : C} {t : A c → Bool} {b : Prog C A Unit} {k : Prog C A α} {Q : α → W → Prop}
    (I : W → Prop) {w : W} (hw : I w)
    (hI : ∀ w, I w → E.allowed w c ∧ ∀ a w', E.step w c a w' →
      (t a = true → wp E b (fun _ => I) w') ∧ (t a = false → wp E k Q w')) :
    wp E (.loop c t b k) Q w := by
  refine ⟨I, hw, fun w₀ w₁ h0 hm => ?_⟩
  rw [World.moves_iff_eq] at hm
  subst hm
  exact hI w₁ h0

end Sequential

/-- The same two rules where the surroundings do move: what must hold is closed under moves. -/
theorem wp_ret_of_stable {E : World C A W} {a : α} {Q : α → W → Prop} {w : W} (h : Q a w)
    (hQ : ∀ w w', Q a w → E.move w w' → Q a w') : wp E (.ret a) Q w :=
  fun _ hm => World.Moves.keeps hQ hm h

theorem wp_call_of_stable {E : World C A W} {c : C} {k : A c → Prog C A α} {Q : α → W → Prop} {w : W}
    {I J : W → Prop} (hw : I w) (hI : ∀ w w', I w → E.move w w' → I w')
    (hc : ∀ w, I w → E.allowed w c ∧ ∀ a w', E.step w c a w' → J w')
    (hk : ∀ a w', J w' → wp E (k a) Q w') : wp E (Prog.issue c >>= k) Q w := by
  intro w₁ hm
  have h₁ := hc w₁ (World.Moves.keeps hI hm hw)
  exact ⟨h₁.1, fun a w' hs => hk a w' (h₁.2 a w' hs)⟩

/-! ## Programs by themselves

`free P R` knows nothing of a state: a call is allowed if `P` holds of it, and answers anything that
`R` lets it.  A specification of a program in `free P R` says which calls it may issue and what
it may return, and `wp_frame` carries it into every world where the calls of `P` keep an
invariant. -/

def free (P : C → Prop) (R : (c : C) → A c → Prop) : World C A Unit where
  allowed _ c := P c
  step _ c a _ := R c a
  move _ _ := False

instance (P : C → Prop) (R : (c : C) → A c → Prop) : (free P R).Sequential := ⟨fun _ _ h => h⟩

@[simp] theorem free_allowed (P : C → Prop) (R : (c : C) → A c → Prop) (u : Unit) (c : C) :
    (free P R).allowed u c ↔ P c := Iff.rfl

@[simp] theorem free_step (P : C → Prop) (R : (c : C) → A c → Prop) (u v : Unit) (c : C) (a : A c) :
    (free P R).step u c a v ↔ R c a := Iff.rfl

/-- In any world, a program keeps what its moves and every call keep. -/
theorem wp_invariant {E : World C A W} (I : W → Prop) (hmove : ∀ w w', I w → E.move w w' → I w')
    (hcall : ∀ w c, I w → E.allowed w c ∧ ∀ a w', E.step w c a w' → I w') (p : Prog C A α) {w : W}
    (hw : I w) : wp E p (fun _ => I) w := by
  induction p generalizing w with
  | ret a => exact fun w₁ hm => World.Moves.keeps hmove hm hw
  | call c k ih =>
    intro w₁ hm
    have h1 := World.Moves.keeps hmove hm hw
    exact ⟨(hcall w₁ c h1).1, fun a w' hs => ih a ((hcall w₁ c h1).2 a w' hs)⟩
  | loop c t b k ihb ihk =>
    refine ⟨I, hw, fun w₀ w₁ h0 hm => ?_⟩
    have h1 := World.Moves.keeps hmove hm h0
    exact ⟨(hcall w₁ c h1).1, fun a w' hs =>
      ⟨fun _ => ihb ((hcall w₁ c h1).2 a w' hs), fun _ => ihk ((hcall w₁ c h1).2 a w' hs)⟩⟩

/-- The frame rule. -/
theorem wp_frame {E : World C A W} {P : C → Prop} {R : (c : C) → A c → Prop} {p : Prog C A α}
    {Q : α → Prop} (hp : wp (free P R) p (fun a _ => Q a) ()) (I : W → Prop)
    (hmove : ∀ w w', I w → E.move w w' → I w')
    (hcall : ∀ w c, P c → I w → E.allowed w c ∧ ∀ a w', E.step w c a w' → R c a ∧ I w') {w : W}
    (hw : I w) : wp E p (fun a w => Q a ∧ I w) w := by
  induction p generalizing w with
  | ret a =>
    exact fun w₁ hm => ⟨hp () World.Moves.refl, World.Moves.keeps hmove hm hw⟩
  | call c k ih =>
    intro w₁ hm
    have h1 := World.Moves.keeps hmove hm hw
    obtain ⟨hc, hk⟩ := hp () World.Moves.refl
    refine ⟨(hcall w₁ c hc h1).1, fun a w' hs => ?_⟩
    obtain ⟨hR, hI⟩ := (hcall w₁ c hc h1).2 a w' hs
    exact ih a (hk a () hR) hI
  | loop c t b k ihb ihk =>
    obtain ⟨J, hJ, hstep⟩ := hp
    refine ⟨fun v => J () ∧ I v, ⟨hJ, hw⟩, fun w₀ w₁ ⟨hj, h0⟩ hm => ?_⟩
    have h1 := World.Moves.keeps hmove hm h0
    obtain ⟨hc, hk⟩ := hstep () () hj World.Moves.refl
    refine ⟨(hcall w₁ c hc h1).1, fun a w' hs => ?_⟩
    obtain ⟨hR, hI⟩ := (hcall w₁ c hc h1).2 a w' hs
    obtain ⟨ht, hf⟩ := hk a () hR
    exact ⟨fun h => ihb (Q := fun _ => J ()) (ht h) hI, fun h => ihk (hf h) hI⟩

/-- What a program does in a world, and what it returns by itself. -/
theorem wp_and_free {E : World C A W} {P : C → Prop} {R : (c : C) → A c → Prop} {p : Prog C A α}
    {Q : α → W → Prop} {S : α → Prop} (hR : ∀ w c a w', E.step w c a w' → R c a) {w : W}
    (h : wp E p Q w) (hp : wp (free P R) p (fun a _ => S a) ()) : wp E p (fun a w => Q a w ∧ S a) w := by
  induction p generalizing w with
  | ret a => exact fun w₁ hm => ⟨h w₁ hm, hp () World.Moves.refl⟩
  | call c k ih =>
    intro w₁ hm
    refine ⟨(h w₁ hm).1, fun a w' hs => ?_⟩
    exact ih a ((h w₁ hm).2 a w' hs) ((hp () World.Moves.refl).2 a () (hR _ _ _ _ hs))
  | loop c t b k ihb ihk =>
    obtain ⟨I, hI, hstep⟩ := h
    obtain ⟨J, hJ, hfree⟩ := hp
    refine ⟨fun v => I v ∧ J (), ⟨hI, hJ⟩, fun w₀ w₁ ⟨hi, hj⟩ hm => ?_⟩
    obtain ⟨hc, hk⟩ := hstep w₀ w₁ hi hm
    refine ⟨hc, fun a w' hs => ?_⟩
    obtain ⟨ht, hf⟩ := hk a w' hs
    obtain ⟨ht', hf'⟩ := (hfree () () hj World.Moves.refl).2 a () (hR _ _ _ _ hs)
    exact ⟨fun hx => ihb (Q := fun _ => I) (S := fun _ => J ()) (ht hx) (ht' hx),
      fun hx => ihk (hf hx) (hf' hx)⟩

/-- Two specifications of one program. -/
theorem wp_and {E : World C A W} {p : Prog C A α} {Q R : α → W → Prop} {w : W} (h : wp E p Q w)
    (h' : wp E p R w) : wp E p (fun a w => Q a w ∧ R a w) w := by
  induction p generalizing w with
  | ret a => exact fun w₁ hm => ⟨h w₁ hm, h' w₁ hm⟩
  | call c k ih =>
    exact fun w₁ hm => ⟨(h w₁ hm).1, fun a w' hs => ih a ((h w₁ hm).2 a w' hs) ((h' w₁ hm).2 a w' hs)⟩
  | loop c t b k ihb ihk =>
    obtain ⟨I, hI, hstep⟩ := h
    obtain ⟨J, hJ, hstep'⟩ := h'
    refine ⟨fun v => I v ∧ J v, ⟨hI, hJ⟩, fun w₀ w₁ ⟨hi, hj⟩ hm => ?_⟩
    obtain ⟨hc, hk⟩ := hstep w₀ w₁ hi hm
    obtain ⟨-, hk'⟩ := hstep' w₀ w₁ hj hm
    refine ⟨hc, fun a w' hs => ?_⟩
    obtain ⟨ht, hf⟩ := hk a w' hs
    obtain ⟨ht', hf'⟩ := hk' a w' hs
    exact ⟨fun hx => ihb (Q := fun _ => I) (R := fun _ => J) (ht hx) (ht' hx), fun hx => ihk (hf hx) (hf' hx)⟩

/-! ## Soundness -/

theorem wp_step {E : World C A W} {p p' : Prog C A α} {Q : α → W → Prop} {w w' : W}
    (h : wp E p Q w) (hs : Step E (p, w) (p', w')) : wp E p' Q w' := by
  cases hs with
  | call hs => exact (h w World.Moves.refl).2 _ _ hs
  | again hs ht =>
    obtain ⟨I, hI, hstep⟩ := h
    have hb := ((hstep w w hI World.Moves.refl).2 _ _ hs).1 ht
    rw [wp_bind']
    exact wp_mono (fun _ v hv => ⟨I, hv, hstep⟩) hb
  | leave hs ht =>
    obtain ⟨I, hI, hstep⟩ := h
    exact ((hstep w w hI World.Moves.refl).2 _ _ hs).2 ht
  | move hm => exact wp_moves h (Relation.ReflTransGen.single hm)

theorem wp_reaches {E : World C A W} {p p' : Prog C A α} {Q : α → W → Prop} {w w' : W}
    (h : wp E p Q w) (hr : Reaches E (p, w) (p', w')) : wp E p' Q w' := by
  generalize hx : (p, w) = x at hr
  generalize hy : (p', w') = y at hr
  induction hr generalizing p' w' with
  | refl => cases hx; cases hy; exact h
  | @tail y z _ hs ih => cases hy; exact wp_step (ih rfl) hs

theorem wp_allowed {E : World C A W} {p : Prog C A α} {Q : α → W → Prop} {w : W} {c : C}
    (h : wp E p Q w) (hc : p.next? = some c) : E.allowed w c := by
  cases p with
  | ret a => cases hc
  | call c' k => cases hc; exact (h w World.Moves.refl).1
  | loop c' t b k =>
    cases hc
    obtain ⟨I, hI, hstep⟩ := h
    exact (hstep w w hI World.Moves.refl).1

theorem wp_value {E : World C A W} {a : α} {Q : α → W → Prop} {w : W} (h : wp E (.ret a) Q w) :
    Q a w := h w World.Moves.refl

/-! ## Playing a program -/

/-- Run `p` where `f` gives the answer to a call and the state it leaves.  There is no result if `f` has no
answer, or if the test of a loop says yes to it. -/
def Prog.play (f : W → (c : C) → Option (A c × W)) : {α : Type} → Prog C A α → W → Option (α × W)
  | _, .ret a, w => some (a, w)
  | _, .call c k, w => (f w c).bind fun x => (k x.1).play f x.2
  | _, .loop c t _ k, w => (f w c).bind fun x => if t x.1 then none else k.play f x.2

@[simp] theorem Prog.play_pure (f : W → (c : C) → Option (A c × W)) (a : α) (w : W) :
    (pure a : Prog C A α).play f w = some (a, w) := rfl

@[simp] theorem Prog.play_issue (f : W → (c : C) → Option (A c × W)) (c : C) (w : W) :
    (Prog.issue c : Prog C A (A c)).play f w = f w c := by
  show (f w c).bind some = f w c
  cases f w c with
  | none => rfl
  | some x => rfl

@[simp] theorem Prog.play_bind (f : W → (c : C) → Option (A c × W)) (p : Prog C A α) (k : α → Prog C A β) (w : W) :
    (p >>= k).play f w = (p.play f w).bind fun x => (k x.1).play f x.2 := by
  show (p.bind k).play f w = _
  induction p generalizing w with
  | ret a => rfl
  | call c g ih =>
    simp only [Prog.bind, Prog.play, Option.bind_assoc]
    exact congrArg _ (funext fun x => ih _ _ _)
  | loop c t b g _ ih =>
    simp only [Prog.bind, Prog.play, Option.bind_assoc]
    refine congrArg _ (funext fun x => ?_)
    split
    · rfl
    · exact ih _ _

/-- A call after moves of the surroundings. -/
theorem Reaches.of_moves {E : World C A W} {p : Prog C A α} {w w' : W} (h : E.Moves w w') :
    Reaches E (p, w) (p, w') := by
  induction h with
  | refl => exact .refl
  | tail _ hm ih => exact ih.tail (.move hm)

/-- What is played is a run, in a world that moves on its own before a call and admits the answer then, as long as
the states keep `J`. -/
theorem reaches_of_play_inv {E : World C A W} {f : W → (c : C) → Option (A c × W)} {J : W → Prop}
    (hf : ∀ w c x, J w → f w c = some x → (∃ w₁, E.Moves w w₁ ∧ E.step w₁ c x.1 x.2) ∧ J x.2) {p : Prog C A α} {a : α}
    {w w' : W} (hw : J w) (h : p.play f w = some (a, w')) : Reaches E (p, w) (.ret a, w') ∧ J w' := by
  induction p generalizing w with
  | ret b =>
    cases h
    exact ⟨.refl, hw⟩
  | call c k ih =>
    obtain ⟨x, hx, h⟩ := Option.bind_eq_some_iff.1 h
    obtain ⟨⟨w₁, hm, hs⟩, hx⟩ := hf w c x hw hx
    obtain ⟨hr, hw'⟩ := ih _ hx h
    exact ⟨(Reaches.of_moves hm).trans (.head (.call hs) hr), hw'⟩
  | loop c t b k _ ihk =>
    obtain ⟨x, hx, h⟩ := Option.bind_eq_some_iff.1 h
    obtain ⟨⟨w₁, hm, hs⟩, hx⟩ := hf w c x hw hx
    cases ht : t x.1 with
    | true => simp [ht] at h
    | false =>
      obtain ⟨hr, hw'⟩ := ihk hx (by simpa [ht] using h)
      exact ⟨(Reaches.of_moves hm).trans (.head (.leave hs ht) hr), hw'⟩

/-- Whatever the states are. -/
theorem reaches_of_play_moves {E : World C A W} {f : W → (c : C) → Option (A c × W)}
    (hf : ∀ w c x, f w c = some x → ∃ w₁, E.Moves w w₁ ∧ E.step w₁ c x.1 x.2) {p : Prog C A α} {a : α}
    {w w' : W} (h : p.play f w = some (a, w')) : Reaches E (p, w) (.ret a, w') :=
  (reaches_of_play_inv (J := fun _ => True) (fun w c x _ hx => ⟨hf w c x hx, trivial⟩) trivial h).1

/-- The same where the surroundings stay as they are. -/
theorem reaches_of_play {E : World C A W} {f : W → (c : C) → Option (A c × W)}
    (hf : ∀ w c x, f w c = some x → E.step w c x.1 x.2) {p : Prog C A α} {a : α} {w w' : W}
    (h : p.play f w = some (a, w')) : Reaches E (p, w) (.ret a, w') :=
  reaches_of_play_moves (fun w c x hx => ⟨w, .refl, hf w c x hx⟩) h

/-! ## Given answers

Where every call can be given the answer `ans`, a program that ends on these answers has a run that ends. -/

section Given

variable (ans : (c : C) → A c)

/-- On the answers `ans` the program leaves its loops at once, and its value satisfies `Q`. -/
def Prog.Ends : {α : Type} → Prog C A α → (α → Prop) → Prop
  | _, .ret a, Q => Q a
  | _, .call c k, Q => (k (ans c)).Ends Q
  | _, .loop c t _ k, Q => t (ans c) = false ∧ k.Ends Q

/-- On the answers `ans` the program comes to issue a call that satisfies `P`. -/
def Prog.Issues (P : C → Prop) : {α : Type} → Prog C A α → Prop
  | _, .ret _ => False
  | _, .call c k => P c ∨ (k (ans c)).Issues P
  | _, .loop c t _ k => P c ∨ t (ans c) = false ∧ k.Issues P

variable {ans} {P : C → Prop} {E : World C A W}

@[simp] theorem Prog.ends_pure (a : α) (Q : α → Prop) : (pure a : Prog C A α).Ends ans Q ↔ Q a := Iff.rfl

@[simp] theorem Prog.ends_issue (c : C) (Q : A c → Prop) :
    (Prog.issue c : Prog C A (A c)).Ends ans Q ↔ Q (ans c) := Iff.rfl

@[simp] theorem Prog.ends_loop {c : C} {t : A c → Bool} {b : Prog C A Unit} {k : Prog C A α} {Q : α → Prop} :
    (Prog.loop c t b k).Ends ans Q ↔ t (ans c) = false ∧ k.Ends ans Q := Iff.rfl

@[simp] theorem Prog.ends_bind {p : Prog C A α} {f : α → Prog C A β} {Q : β → Prop} :
    (p >>= f).Ends ans Q ↔ p.Ends ans fun a => (f a).Ends ans Q := by
  show (p.bind f).Ends ans Q ↔ _
  induction p with
  | ret a => rfl
  | call c k ih => exact ih _
  | loop c t b k _ ihk => exact and_congr_right fun _ => ihk

@[simp] theorem Prog.ends_ite {c : Prop} [Decidable c] {p q : Prog C A α} {Q : α → Prop} :
    (if c then p else q).Ends ans Q ↔ (c → p.Ends ans Q) ∧ (¬ c → q.Ends ans Q) := by
  split <;> simp_all

@[simp] theorem Prog.issues_issue (c : C) : (Prog.issue c : Prog C A (A c)).Issues ans P ↔ P c :=
  or_iff_left id

@[simp] theorem Prog.issues_issue_bind (c : C) (k : A c → Prog C A α) :
    (Prog.issue c >>= k).Issues ans P ↔ P c ∨ (k (ans c)).Issues ans P := Iff.rfl

@[simp] theorem Prog.issues_ite {c : Prop} [Decidable c] {p q : Prog C A α} :
    (if c then p else q).Issues ans P ↔ if c then p.Issues ans P else q.Issues ans P := by
  split <;> rfl

theorem Prog.Issues.bind_left {p : Prog C A α} {f : α → Prog C A β} (h : p.Issues ans P) :
    (p >>= f).Issues ans P := by
  show (p.bind f).Issues ans P
  induction p with
  | ret a => exact h.elim
  | call c k ih => exact h.imp_right (ih _)
  | loop c t b k _ ihk => exact h.imp_right fun h => ⟨h.1, ihk h.2⟩

theorem Prog.Issues.bind_right {p : Prog C A α} {f : α → Prog C A β} {Q : α → Prop} (hp : p.Ends ans Q)
    (hf : ∀ a, Q a → (f a).Issues ans P) : (p >>= f).Issues ans P := by
  show (p.bind f).Issues ans P
  induction p with
  | ret a => exact hf _ hp
  | call c k ih => exact .inr (ih _ hp hf)
  | loop c t b k _ ihk => exact .inr ⟨hp.1, ihk hp.2 hf⟩

/-- A program that ends has a run that ends, if it keeps to calls that can be given the answers. -/
theorem Prog.Ends.exists_reaches_within {R : (c : C) → A c → Prop} {I : W → Prop}
    (hE : ∀ w c, P c → I w → R c (ans c) ∧ ∃ w', E.step w c (ans c) w' ∧ I w') {p : Prog C A α} {Q S : α → Prop}
    (hp : wp (free P R) p (fun a _ => S a) ()) (h : p.Ends ans Q) {w : W} (hw : I w) :
    ∃ a w', Reaches E (p, w) (.ret a, w') ∧ Q a ∧ I w' := by
  induction p generalizing w with
  | ret a => exact ⟨a, w, .refl, h, hw⟩
  | call c k ih =>
    obtain ⟨hc, hk⟩ := hp () World.Moves.refl
    obtain ⟨hR, w₁, hs, h₁⟩ := hE w c hc hw
    obtain ⟨a, w', hr, ha⟩ := ih _ (hk _ () hR) h h₁
    exact ⟨a, w', .head (.call hs) hr, ha⟩
  | loop c t b k _ ihk =>
    obtain ⟨J, hJ, hloop⟩ := hp
    obtain ⟨hc, hk⟩ := hloop () () hJ World.Moves.refl
    obtain ⟨hR, w₁, hs, h₁⟩ := hE w c hc hw
    obtain ⟨a, w', hr, ha⟩ := ihk ((hk _ () hR).2 h.1) h.2 h₁
    exact ⟨a, w', .head (.leave hs h.1) hr, ha⟩

theorem Prog.Ends.exists_reaches (hE : ∀ w c, ∃ w', E.step w c (ans c) w') {p : Prog C A α} {Q : α → Prop}
    (h : p.Ends ans Q) (w : W) : ∃ a w', Reaches E (p, w) (.ret a, w') ∧ Q a := by
  have hp : wp (free (fun _ => True) fun _ _ => True) p (fun _ _ => True) () :=
    wp_invariant (fun _ => True) (fun _ _ _ _ => trivial) (fun _ _ _ => ⟨trivial, fun _ _ _ => trivial⟩) p trivial
  obtain ⟨a, w', hr, ha, -⟩ := h.exists_reaches_within (E := E) (I := fun _ => True)
    (fun w c _ _ => ⟨trivial, (hE w c).imp fun _ hs => ⟨hs, trivial⟩⟩) hp trivial
  exact ⟨a, w', hr, ha⟩

/-- A program that issues a call has a run that comes to it. -/
theorem Prog.Issues.exists_reaches (hE : ∀ w c, ∃ w', E.step w c (ans c) w') {p : Prog C A α}
    (h : p.Issues ans P) (w : W) : ∃ q w' c, Reaches E (p, w) (q, w') ∧ q.next? = some c ∧ P c := by
  induction p generalizing w with
  | ret a => exact h.elim
  | call c k ih =>
    rcases h with hc | h
    · exact ⟨_, w, c, .refl, rfl, hc⟩
    · obtain ⟨w₁, hs⟩ := hE w c
      obtain ⟨q, w', c', hr, hq⟩ := ih _ h w₁
      exact ⟨q, w', c', .head (.call hs) hr, hq⟩
  | loop c t b k _ ihk =>
    rcases h with hc | ⟨ht, h⟩
    · exact ⟨_, w, c, .refl, rfl, hc⟩
    · obtain ⟨w₁, hs⟩ := hE w c
      obtain ⟨q, w', c', hr, hq⟩ := ihk h w₁
      exact ⟨q, w', c', .head (.leave hs ht) hr, hq⟩

-- A statement about a program is not a reason to run it.
attribute [irreducible] Prog.Ends Prog.Issues

end Given

/-! ## Programs without loops -/

section Loopless

variable {E : World C A W}

/-- The program has no loop, and whatever the calls answer, its value satisfies `Q`. -/
def Prog.Returns : {α : Type} → Prog C A α → (α → Prop) → Prop
  | _, .ret a, Q => Q a
  | _, .call _ k, Q => ∀ a, (k a).Returns Q
  | _, .loop .., _ => False

@[simp] theorem Prog.returns_pure (a : α) (Q : α → Prop) : (pure a : Prog C A α).Returns Q ↔ Q a := Iff.rfl

@[simp] theorem Prog.returns_issue (c : C) (Q : A c → Prop) :
    (Prog.issue c : Prog C A (A c)).Returns Q ↔ ∀ a, Q a := Iff.rfl

@[simp] theorem Prog.returns_bind {p : Prog C A α} {f : α → Prog C A β} {Q : β → Prop} :
    (p >>= f).Returns Q ↔ p.Returns fun a => (f a).Returns Q := by
  show (p.bind f).Returns Q ↔ _
  induction p with
  | ret a => rfl
  | call c k ih => exact forall_congr' fun a => ih a
  | loop => rfl

@[simp] theorem Prog.returns_ite {c : Prop} [Decidable c] {p q : Prog C A α} {Q : α → Prop} :
    (if c then p else q).Returns Q ↔ (c → p.Returns Q) ∧ (¬ c → q.Returns Q) := by
  split <;> simp_all

/-- Where every call is answered, it comes to its end. -/
theorem Prog.Returns.exists_reaches (hE : ∀ w c, ∃ a w', E.step w c a w') {p : Prog C A α} {Q : α → Prop}
    (h : p.Returns Q) (w : W) : ∃ a w', Reaches E (p, w) (.ret a, w') ∧ Q a := by
  induction p generalizing w with
  | ret a => exact ⟨a, w, .refl, h⟩
  | call c k ih =>
    obtain ⟨x, w₁, hs⟩ := hE w c
    obtain ⟨a, w', hr, ha⟩ := ih x (h x) w₁
    exact ⟨a, w', .head (.call hs) hr, ha⟩
  | loop => exact h.elim

attribute [irreducible] Prog.Returns

end Loopless

/-! ## A thread that runs `start` and then `iter` for ever -/

/-- The thread is between two rounds. -/
inductive Boundary (E : World C A W) (start : Prog C A S) (iter : S → Prog C A S) (init : W → Prop) :
    S → W → Prop
  | start {w₀ w : W} {s : S} : init w₀ → Reaches E (start, w₀) (.ret s, w) →
      Boundary E start iter init s w
  | iter {s s' : S} {w w' : W} : Boundary E start iter init s w →
      Reaches E (iter s, w) (.ret s', w') → Boundary E start iter init s' w'

/-- The thread is inside of `start` or of a round. -/
inductive During (E : World C A W) (start : Prog C A S) (iter : S → Prog C A S) (init : W → Prop) :
    Prog C A S → W → Prop
  | start {w₀ w : W} {p : Prog C A S} : init w₀ → Reaches E (start, w₀) (p, w) →
      During E start iter init p w
  | iter {s : S} {w w' : W} {p : Prog C A S} : Boundary E start iter init s w →
      Reaches E (iter s, w) (p, w') → During E start iter init p w'

section Thread

variable {E : World C A W} {start : Prog C A S} {iter : S → Prog C A S} {init : W → Prop}
  {I : S → W → Prop}

/-- What `start` establishes and every round keeps holds at every boundary. -/
theorem boundary_inv (hstart : ∀ w, init w → wp E start I w)
    (hiter : ∀ s w, I s w → wp E (iter s) I w) {s : S} {w : W}
    (h : Boundary E start iter init s w) : I s w := by
  induction h with
  | start hi hr => exact wp_value (wp_reaches (hstart _ hi) hr)
  | iter _ hr ih => exact wp_value (wp_reaches (hiter _ _ ih) hr)

theorem during_wp (hstart : ∀ w, init w → wp E start I w)
    (hiter : ∀ s w, I s w → wp E (iter s) I w) {p : Prog C A S} {w : W}
    (h : During E start iter init p w) : wp E p I w := by
  cases h with
  | start hi hr => exact wp_reaches (hstart _ hi) hr
  | iter hb hr => exact wp_reaches (hiter _ _ (boundary_inv hstart hiter hb)) hr

/-- Every call of the whole run is allowed when it is issued. -/
theorem during_allowed (hstart : ∀ w, init w → wp E start I w)
    (hiter : ∀ s w, I s w → wp E (iter s) I w) {p : Prog C A S} {w : W} {c : C}
    (h : During E start iter init p w) (hc : p.next? = some c) : E.allowed w c :=
  wp_allowed (during_wp hstart hiter h) hc

/-- The runs of a world do not depend on what it allows. -/
theorem Reaches.allowing {p p' : Prog C A α} {w w' : W} (h : Reaches E (p, w) (p', w'))
    (allowed : W → C → Prop) : Reaches { E with allowed := allowed } (p, w) (p', w') := by
  have step (x y : Prog C A α × W) (hs : Step E x y) : Step { E with allowed := allowed } x y := by
    cases hs with
    | call hs => exact .call hs
    | again hs ht => exact .again hs ht
    | leave hs ht => exact .leave hs ht
    | move hm => exact .move hm
  exact Relation.ReflTransGen.mono step _ _ h

/-- What every move and every call keeps holds all along a run, whatever the thread does. -/
theorem reaches_keeps {I : W → Prop} (hmove : ∀ w w', I w → E.move w w' → I w')
    (hcall : ∀ w c a w', I w → E.step w c a w' → I w') {p p' : Prog C A α} {w w' : W}
    (h : Reaches E (p, w) (p', w')) (hw : I w) : I w' := by
  have step : ∀ x y : Prog C A α × W, I x.2 → Step E x y → I y.2 := fun x y hx hs => by
    cases hs with
    | call hs => exact hcall _ _ _ _ hx hs
    | again hs _ => exact hcall _ _ _ _ hx hs
    | leave hs _ => exact hcall _ _ _ _ hx hs
    | move hm => exact hmove _ _ hx hm
  suffices ∀ x y, Reaches E x y → I x.2 → I y.2 from this _ _ h hw
  intro x y hr hx
  induction hr with
  | refl => exact hx
  | tail _ hs ih => exact step _ _ ih hs

/-- In a run whose calls are allowed it is enough that the allowed calls keep it. -/
theorem reaches_keeps_of_allowed {I : W → Prop} {Q : α → W → Prop}
    (hmove : ∀ w w', I w → E.move w w' → I w')
    (hcall : ∀ w c a w', I w → E.allowed w c → E.step w c a w' → I w') {p p' : Prog C A α} {w w' : W}
    (hp : wp E p Q w) (h : Reaches E (p, w) (p', w')) (hw : I w) : I w' := by
  have step : ∀ x y : Prog C A α × W, wp E x.1 Q x.2 → I x.2 → Step E x y → I y.2 := fun x y hx hi hs => by
    cases hs with
    | call hs => exact hcall _ _ _ _ hi (wp_allowed hx rfl) hs
    | again hs _ => exact hcall _ _ _ _ hi (wp_allowed hx rfl) hs
    | leave hs _ => exact hcall _ _ _ _ hi (wp_allowed hx rfl) hs
    | move hm => exact hmove _ _ hi hm
  suffices ∀ x y, Reaches E x y → wp E x.1 Q x.2 → I x.2 → wp E y.1 Q y.2 ∧ I y.2 from (this _ _ h hp hw).2
  intro x y hr hx hi
  induction hr with
  | refl => exact ⟨hx, hi⟩
  | tail _ hs ih => exact ⟨wp_step ih.1 hs, step _ _ ih.1 ih.2 hs⟩

/-- In any run of a program, what the calls that it issues keep. -/
theorem reaches_keeps_of_free {I : W → Prop} {P : C → Prop} {p p' : Prog C A α} {w w' : W}
    (hp : wp (free P fun _ _ => True) p (fun _ _ => True) ()) (hmove : ∀ w w', I w → E.move w w' → I w')
    (hcall : ∀ w c a w', I w → P c → E.step w c a w' → I w') (h : Reaches E (p, w) (p', w')) (hw : I w) :
    I w' := by
  let F : World C A W := { E with allowed := fun _ => P }
  have hwp : wp F p (fun _ _ => True ∧ True) w := wp_frame hp (fun _ => True) (fun _ _ _ _ => trivial)
    (fun _ _ hc _ => ⟨hc, fun _ _ _ => ⟨trivial, trivial⟩⟩) trivial
  exact reaches_keeps_of_allowed (E := F) hmove hcall hwp (h.allowing _) hw

theorem boundary_keeps {I : W → Prop} (hinit : ∀ w, init w → I w)
    (hmove : ∀ w w', I w → E.move w w' → I w')
    (hcall : ∀ w c a w', I w → E.step w c a w' → I w') {s : S} {w : W}
    (h : Boundary E start iter init s w) : I w := by
  induction h with
  | start hi hr => exact reaches_keeps hmove hcall hr (hinit _ hi)
  | iter _ hr ih => exact reaches_keeps hmove hcall hr ih

theorem during_keeps {I : W → Prop} (hinit : ∀ w, init w → I w)
    (hmove : ∀ w w', I w → E.move w w' → I w')
    (hcall : ∀ w c a w', I w → E.step w c a w' → I w') {p : Prog C A S} {w : W}
    (h : During E start iter init p w) : I w := by
  cases h with
  | start hi hr => exact reaches_keeps hmove hcall hr (hinit _ hi)
  | iter hb hr => exact reaches_keeps hmove hcall hr (boundary_keeps hinit hmove hcall hb)

theorem during_keeps_of_allowed {J : W → Prop} (hstart : ∀ w, init w → wp E start I w)
    (hiter : ∀ s w, I s w → wp E (iter s) I w) (hinit : ∀ w, init w → J w)
    (hmove : ∀ w w', J w → E.move w w' → J w')
    (hcall : ∀ w c a w', J w → E.allowed w c → E.step w c a w' → J w') {p : Prog C A S} {w : W}
    (h : During E start iter init p w) : J w := by
  have hb {s : S} {w : W} (h : Boundary E start iter init s w) : J w := by
    induction h with
    | start hi hr => exact reaches_keeps_of_allowed hmove hcall (hstart _ hi) hr (hinit _ hi)
    | iter hb hr ih =>
      exact reaches_keeps_of_allowed hmove hcall (hiter _ _ (boundary_inv hstart hiter hb)) hr ih
  cases h with
  | start hi hr => exact reaches_keeps_of_allowed hmove hcall (hstart _ hi) hr (hinit _ hi)
  | iter h hr =>
    exact reaches_keeps_of_allowed hmove hcall (hiter _ _ (boundary_inv hstart hiter h)) hr (hb h)

end Thread

/-! ## Two worlds

If a second world can answer every call as the first one does, and follow its moves, then it has every run
of the thread that the first one has. -/

section Simulation

variable {V : Type} {E : World C A W} {F : World C A V} {start : Prog C A S} {iter : S → Prog C A S}
  {initW : W → Prop} {initV : V → Prop}

/-- `F` follows `E` along the relation `R`, with the same answers. -/
structure World.Follows (E : World C A W) (F : World C A V) (R : W → V → Prop) : Prop where
  step : ∀ {w v c a w'}, R w v → E.step w c a w' → ∃ v', F.step v c a v' ∧ R w' v'
  move : ∀ {w v w'}, R w v → E.move w w' → ∃ v', F.move v v' ∧ R w' v'

variable {R : W → V → Prop}

theorem World.Follows.reaches (hf : E.Follows F R) {p p' : Prog C A α} {w w' : W} {v : V}
    (h : Reaches E (p, w) (p', w')) (hR : R w v) : ∃ v', Reaches F (p, v) (p', v') ∧ R w' v' := by
  have one : ∀ (x y : Prog C A α × W) (v : V), Step E x y → R x.2 v →
      ∃ v', Step F (x.1, v) (y.1, v') ∧ R y.2 v' := fun x y v hs hR => by
    cases hs with
    | call hs =>
      obtain ⟨v', hv, hR'⟩ := hf.step hR hs
      exact ⟨v', .call hv, hR'⟩
    | again hs ht =>
      obtain ⟨v', hv, hR'⟩ := hf.step hR hs
      exact ⟨v', .again hv ht, hR'⟩
    | leave hs ht =>
      obtain ⟨v', hv, hR'⟩ := hf.step hR hs
      exact ⟨v', .leave hv ht, hR'⟩
    | move hm =>
      obtain ⟨v', hv, hR'⟩ := hf.move hR hm
      exact ⟨v', .move hv, hR'⟩
  suffices ∀ x y, Reaches E x y → R x.2 v → ∃ v', Reaches F (x.1, v) (y.1, v') ∧ R y.2 v' from
    this _ _ h hR
  intro x y hr hx
  induction hr with
  | refl => exact ⟨v, .refl, hx⟩
  | tail _ hs ih =>
    obtain ⟨v₁, hv₁, hR₁⟩ := ih
    obtain ⟨v₂, hv₂, hR₂⟩ := one _ _ v₁ hs hR₁
    exact ⟨v₂, hv₁.tail hv₂, hR₂⟩

theorem World.Follows.boundary (hf : E.Follows F R) (hinit : ∀ w, initW w → ∃ v, initV v ∧ R w v)
    {s : S} {w : W} (h : Boundary E start iter initW s w) :
    ∃ v, Boundary F start iter initV s v ∧ R w v := by
  induction h with
  | start hi hr =>
    obtain ⟨v₀, hv₀, hR₀⟩ := hinit _ hi
    obtain ⟨v, hv, hR⟩ := hf.reaches hr hR₀
    exact ⟨v, .start hv₀ hv, hR⟩
  | iter _ hr ih =>
    obtain ⟨v, hv, hR⟩ := ih
    obtain ⟨v', hv', hR'⟩ := hf.reaches hr hR
    exact ⟨v', .iter hv hv', hR'⟩

theorem World.Follows.during (hf : E.Follows F R) (hinit : ∀ w, initW w → ∃ v, initV v ∧ R w v)
    {p : Prog C A S} {w : W} (h : During E start iter initW p w) :
    ∃ v, During F start iter initV p v ∧ R w v := by
  cases h with
  | start hi hr =>
    obtain ⟨v₀, hv₀, hR₀⟩ := hinit _ hi
    obtain ⟨v, hv, hR⟩ := hf.reaches hr hR₀
    exact ⟨v, .start hv₀ hv, hR⟩
  | iter hb hr =>
    obtain ⟨v, hv, hR⟩ := hf.boundary hinit hb
    obtain ⟨v', hv', hR'⟩ := hf.reaches hr hR
    exact ⟨v', .iter hv hv', hR'⟩

/-- Two worlds side by side: a call has to be answered by both, with the same answer. -/
def World.both (E : World C A W) (F : World C A V) : World C A (W × V) where
  allowed w c := E.allowed w.1 c ∧ F.allowed w.2 c
  step w c a w' := E.step w.1 c a w'.1 ∧ F.step w.2 c a w'.2
  move w w' := E.move w.1 w'.1 ∧ F.move w.2 w'.2

theorem World.both_follows_left : (E.both F).Follows E fun x w => x.1 = w where
  step hR hs := ⟨_, hR ▸ hs.1, rfl⟩
  move hR hm := ⟨_, hR ▸ hm.1, rfl⟩

theorem World.both_follows_right : (E.both F).Follows F fun x v => x.2 = v where
  step hR hs := ⟨_, hR ▸ hs.2, rfl⟩
  move hR hm := ⟨_, hR ▸ hm.2, rfl⟩

end Simulation

end Interaction
