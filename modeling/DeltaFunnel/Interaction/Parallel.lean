import Mathlib.Logic.Function.Basic
import DeltaFunnel.Interaction.Protocol

/-! Programs that take turns on one shared world. A client's protocol speaks of its own
ghost state only; one invariant ties the world to the ghost states of all clients. -/

namespace Interaction

variable {σ : Signature} {W S ι α : Type}

/-- A world in which each operation of a client is one atomic step. -/
structure Shared (σ : Signature) (W ι : Type) where
  step : ι → W → (op : σ.Op) → σ.Reply op → W → Prop

structure Config (σ : Signature) (W ι α : Type) where
  world : W
  program : ι → Program σ α

namespace Shared
variable [DecidableEq ι]

inductive Step (E : Shared σ W ι) : Config σ W ι α → ι → Event σ → Config σ W ι α → Prop
  | mk {c : Config σ W ι α} {i : ι} {op : σ.Op} {next : σ.Reply op → Program σ α}
      {reply : σ.Reply op} {w' : W} (hprogram : c.program i = .call op next)
      (hworld : E.step i c.world op reply w') :
      Step E c i ⟨op, reply⟩ ⟨w', Function.update c.program i (next reply)⟩

/-- `Reaches E c trace d`: some interleaving of the clients leads from `c` to `d`. -/
inductive Reaches (E : Shared σ W ι) :
    Config σ W ι α → List (ι × Event σ) → Config σ W ι α → Prop
  | refl (c : Config σ W ι α) : Reaches E c [] c
  | snoc {c d d' : Config σ W ι α} {trace : List (ι × Event σ)} {i : ι} {e : Event σ}
      (first : Reaches E c trace d) (last : E.Step d i e d') :
      Reaches E c (trace ++ [(i, e)]) d'

theorem Reaches.step {E : Shared σ W ι} {c d : Config σ W ι α} {trace : List (ι × Event σ)}
    (h : E.Reaches c trace d) (i : ι) {op : σ.Op} {next : σ.Reply op → Program σ α} {w' : W}
    (hprogram : d.program i = .call op next) (reply : σ.Reply op)
    (hworld : E.step i d.world op reply w') :
    E.Reaches c (trace ++ [(i, ⟨op, reply⟩)])
      ⟨w', Function.update d.program i (next reply)⟩ := .snoc h (.mk hprogram hworld)

theorem Reaches.trans {E : Shared σ W ι} {c d d' : Config σ W ι α}
    {first second : List (ι × Event σ)} (h : E.Reaches c first d)
    (h' : E.Reaches d second d') : E.Reaches c (first ++ second) d' := by
  induction h' with
  | refl => simpa using h
  | snoc _ last ih =>
    rw [← List.append_assoc]
    exact .snoc ih last

/-- Lets the clients take their turns in the given order, each operation answered by `answer`. -/
def schedule (answer : W → (op : σ.Op) → σ.Reply op)
    (next : W → (op : σ.Op) → σ.Reply op → W) :
    List ι → Config σ W ι α → List (ι × Event σ) × Config σ W ι α
  | [], c => ([], c)
  | i :: order, c =>
    match c.program i with
    | .ret _ => schedule answer next order c
    | .call op rest =>
      let reply := answer c.world op
      let later := schedule answer next order
        ⟨next c.world op reply, Function.update c.program i (rest reply)⟩
      ((i, ⟨op, reply⟩) :: later.1, later.2)

theorem schedule_reaches {E : Shared σ W ι} {answer : W → (op : σ.Op) → σ.Reply op}
    {next : W → (op : σ.Op) → σ.Reply op → W}
    (hstep : ∀ i w op, E.step i w op (answer w op) (next w op (answer w op)))
    (order : List ι) (c : Config σ W ι α) :
    E.Reaches c (schedule answer next order c).1 (schedule answer next order c).2 := by
  induction order generalizing c with
  | nil => exact .refl c
  | cons i order ih =>
    unfold schedule
    split
    · exact ih c
    · next op rest hprogram =>
      have hfirst := (Reaches.refl (E := E) c).step i hprogram (answer c.world op)
        (hstep i c.world op)
      exact hfirst.trans (ih _)

def own (i : ι) (trace : List (ι × Event σ)) : List (Event σ) :=
  (trace.filter fun entry => entry.1 = i).map Prod.snd

@[simp] theorem own_nil (i : ι) : own i ([] : List (ι × Event σ)) = [] := rfl

theorem own_snoc (i j : ι) (trace : List (ι × Event σ)) (e : Event σ) :
    own j (trace ++ [(i, e)]) = if i = j then own j trace ++ [e] else own j trace := by
  split_ifs with h <;> simp [own, h]

variable {E : Shared σ W ι} {A : ι → Protocol σ S} {I : W → (ι → S) → Prop}
  {Q : ι → α → S → Prop}

/-- Every world step of an allowed operation is possible and keeps the invariant. -/
def Preserves (E : Shared σ W ι) (A : ι → Protocol σ S) (I : W → (ι → S) → Prop) : Prop :=
  ∀ i w s op reply w', I w s → (A i).allowed (s i) op → E.step i w op reply w' →
    (A i).possible (s i) op reply ∧ I w' (Function.update s i ((A i).next (s i) op reply))

/-- What the rule of parallel composition carries along a run. -/
structure Coherent (A : ι → Protocol σ S) (I : W → (ι → S) → Prop) (Q : ι → α → S → Prop)
    (c : Config σ W ι α) (s : ι → S) : Prop where
  invariant : I c.world s
  meets : ∀ i, (A i).Meets (c.program i) (s i) (Q i)

theorem Coherent.step {c d : Config σ W ι α} {s : ι → S} {i : ι} {e : Event σ}
    (h : Coherent A I Q c s) (hpreserves : Preserves E A I) (hstep : E.Step c i e d) :
    (A i).allowed (s i) e.op ∧
      Coherent A I Q d (Function.update s i ((A i).next (s i) e.op e.reply)) := by
  cases hstep with
  | @mk op next reply w' hprogram hworld =>
    have hi := h.meets i
    rw [hprogram] at hi
    obtain ⟨hpossible, hinvariant⟩ := hpreserves i c.world s op reply w' h.invariant hi.1 hworld
    refine ⟨hi.1, hinvariant, fun j => ?_⟩
    by_cases hj : j = i
    · subst hj
      simpa only [Function.update_self] using hi.2 reply hpossible
    · simpa only [Function.update_of_ne hj] using h.meets j

/-- **Parallel composition.** Clients that meet their protocols keep the invariant under
every interleaving, each in the ghost state its own events lead to. -/
theorem Coherent.reaches {c d : Config σ W ι α} {s : ι → S} {trace : List (ι × Event σ)}
    (h : Coherent A I Q c s) (hpreserves : Preserves E A I) (hreaches : E.Reaches c trace d) :
    Coherent A I Q d fun i => (A i).after (s i) (own i trace) := by
  induction hreaches with
  | refl => simpa only [own_nil, Protocol.after_nil] using h
  | @snoc d d' trace i e first last ih =>
    have hlast := (ih.step hpreserves last).2
    convert hlast using 2 with j
    by_cases hj : j = i
    · subst hj
      simp [own_snoc, Protocol.after_append]
    · simp [own_snoc, Function.update_of_ne hj, Ne.symm hj]

theorem Coherent.event {c d : Config σ W ι α} {s : ι → S} {trace : List (ι × Event σ)}
    (h : Coherent A I Q c s) (hpreserves : Preserves E A I) (hreaches : E.Reaches c trace d)
    {i : ι} {e : Event σ} (he : (i, e) ∈ trace) :
    ∃ t, (A i).allowed t e.op ∧ (A i).possible t e.op e.reply := by
  induction hreaches with
  | refl => cases he
  | @snoc d d' trace j e' first last ih =>
    rcases List.mem_append.1 he with hold | hlast
    · exact ih hold
    · obtain ⟨rfl, rfl⟩ := Prod.mk.inj (List.mem_singleton.1 hlast)
      have hcoherent := h.reaches hpreserves first
      have hallowed := (hcoherent.step hpreserves last).1
      cases last with
      | @mk op next reply w' hprogram hworld =>
        exact ⟨_, hallowed, (hpreserves _ _ _ _ _ _ hcoherent.invariant hallowed hworld).1⟩

/-- A property of one client's ghost state that a run brings about is brought about by one of
that client's own steps. -/
theorem Reaches.turning_point {c d : Config σ W ι α} {trace : List (ι × Event σ)} {i : ι} {s : S}
    {P : S → Prop} (hreaches : E.Reaches c trace d) (hbefore : ¬P s)
    (hafter : P ((A i).after s (own i trace))) :
    ∃ before e after b b', trace = before ++ (i, e) :: after ∧ E.Reaches c before b ∧
      E.Step b i e b' ∧ ¬P ((A i).after s (own i before)) ∧
      P ((A i).next ((A i).after s (own i before)) e.op e.reply) := by
  induction hreaches with
  | refl => exact absurd hafter hbefore
  | @snoc d d' trace j e first last ih =>
    by_cases hearlier : P ((A i).after s (own i trace))
    · obtain ⟨before, e', after, b, b', rfl, hfirst, hstep, hnot, hturn⟩ := ih hearlier
      exact ⟨before, e', after ++ [(j, e)], b, b', by simp, hfirst, hstep, hnot, hturn⟩
    · by_cases hj : j = i
      · subst hj
        rw [own_snoc, if_pos rfl, Protocol.after_append] at hafter
        exact ⟨trace, e, [], d, d', rfl, first, last, hearlier, hafter⟩
      · rw [own_snoc, if_neg hj] at hafter
        exact absurd hafter hearlier

end Shared
end Interaction
