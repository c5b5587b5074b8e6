import XrPanel.Script
import XrPanel.Store.Memory

namespace XrPanel

variable {α β σ : Type}

def failure? : Except StoreError α → Option StoreError
  | .ok _ => none
  | .error e => some e

theorem failure?_eq_none {x : Except StoreError α} : failure? x = none ↔ ∃ a, x = .ok a := by
  cases x <;> simp [failure?]

def Request.Reads (path : String) (keys : List String) : Request → Prop
  | getDword p n | getString p n => p = path ∧ n ∈ keys
  | ensurePath _ | setDword .. | setString .. | deleteValue .. => False

theorem Request.Reads.quiet {path : String} {keys : List String} {r : Request} (h : r.Reads path keys) :
    r.writes = false := by
  cases r <;> first | rfl | exact h.elim

theorem Request.Reads.mono {path : String} {keys keys' : List String} {r : Request} (h : r.Reads path keys)
    (hk : ∀ k ∈ keys, k ∈ keys') : r.Reads path keys' := by
  cases r <;> first | exact h.elim | exact ⟨h.1, hk _ h.2⟩

namespace Step

def failure? : Step → Option StoreError
  | asked _ e => e
  | told _ => none

def Asks (Q : Request → Prop) : Step → Prop
  | asked r _ => Q r
  | told _ => True

theorem Asks.imp {Q Q' : Request → Prop} (h : ∀ r, Q r → Q' r) {x : Step} (hx : x.Asks Q) : x.Asks Q' := by
  cases x with
  | told e => trivial
  | asked r e => exact h r hx

def Quiet (x : Step) : Prop := x.Asks fun r => r.writes = false

def effect : Step → Hive → Hive
  | asked r _, h => h.after r
  | told _, h => h

end Step

def Clean (steps : List Step) : Prop := ∀ s ∈ steps, s.failure? = none

instance (steps : List Step) : Decidable (Clean steps) := inferInstanceAs (Decidable (∀ s ∈ steps, _ = _))

def effects (steps : List Step) (h : Hive) : Hive := steps.foldl (fun h s => s.effect h) h

@[simp]
theorem clean_nil : Clean [] := by simp [Clean]

@[simp]
theorem clean_told (e : Event) (l : List Step) : Clean (.told e :: l) ↔ Clean l := by
  simp [Clean, Step.failure?]

@[simp]
theorem clean_asked (r : Request) (x : Option StoreError) (l : List Step) :
    Clean (.asked r x :: l) ↔ x = none ∧ Clean l := by
  simp [Clean, Step.failure?]

@[simp]
theorem clean_append (l m : List Step) : Clean (l ++ m) ↔ Clean l ∧ Clean m := by
  simp only [Clean, List.mem_append]
  constructor
  · intro h
    exact ⟨fun s hs => h s (.inl hs), fun s hs => h s (.inr hs)⟩
  · rintro ⟨hl, hm⟩ s (hs | hs)
    · exact hl s hs
    · exact hm s hs

theorem effects_append (l m : List Step) (h : Hive) : effects (l ++ m) h = effects m (effects l h) :=
  List.foldl_append

/-- A store that stands for a hive: a request that succeeds answers from it and changes it. Of one that
fails nothing is taken for granted, not even that the hive stays as it is. -/
structure Store.Backed (st : Store (StateM σ)) (hive : σ → Hive) : Prop where
  answer {r : Request} {s : σ} {a : r.Answer} (h : (st r s).1 = .ok a) : (hive s).answer r = .ok a
  after {r : Request} {s : σ} {a : r.Answer} (h : (st r s).1 = .ok a) : hive (st r s).2 = (hive s).after r

/-- From a state that is fit on, no request fails but for what the hive itself refuses. -/
structure Store.Faultless (st : Store (StateM σ)) (hive : σ → Hive) (fit : σ → Prop) : Prop extends st.Backed hive where
  answers {s : σ} (hs : fit s) (r : Request) : (st r s).1 = (hive s).answer r
  stays {s : σ} (hs : fit s) (r : Request) : fit (st r s).2

theorem hiveStore_backed : hiveStore.Backed id := ⟨fun h => h, fun _ => rfl⟩

theorem hiveStore_faultless : hiveStore.Faultless id fun _ => True :=
  ⟨hiveStore_backed, fun _ _ => rfl, fun _ _ => trivial⟩

theorem memoryStore_backed : memoryStore.Backed Memory.hive where
  answer {r s a} h := by
    unfold memoryStore at h
    split at h
    · cases h
    · exact h
  after {r s a} h := by
    unfold memoryStore at h ⊢
    split at h
    · cases h
    case isFalse hdeny =>
      rw [if_neg hdeny]
      rfl

theorem memoryStore_faultless :
    memoryStore.Faultless Memory.hive fun m => m.denyAll = false ∧ m.denyWrites = false where
  toBacked := memoryStore_backed
  answers {m} hm r := by
    have hallowed : m.denies r = false := by simp [Memory.denies, hm]
    simp [memoryStore, hallowed]
  stays {m} hm r := by
    have hallowed : m.denies r = false := by simp [Memory.denies, hm]
    simpa [memoryStore, hallowed, Memory.step] using hm

namespace Script

def runOn (p : Script α) (st : Store (StateM σ)) (s : σ) : Transcript α × σ := p.run st s

section

variable {st : Store (StateM σ)} {s : σ}

theorem runOn_tell (e : Event) (next : Script α) :
    (tell e next).runOn st s = ((next.runOn st s).1.cons (.told e), (next.runOn st s).2) := rfl

theorem runOn_ask (r : Request) (next : Except StoreError r.Answer → Script α) :
    (ask r next).runOn st s =
      (((next (st r s).1).runOn st (st r s).2).1.cons (.asked r (failure? (st r s).1)),
        ((next (st r s).1).runOn st (st r s).2).2) := by
  unfold runOn
  rw [run]
  change (_, _) = _
  cases (st r s).1 <;> rfl

theorem runOn_request (r : Request) (f : Except StoreError r.Answer → Script β) :
    (request r >>= f).runOn st s =
      (((f (st r s).1).runOn st (st r s).2).1.cons (.asked r (failure? (st r s).1)),
        ((f (st r s).1).runOn st (st r s).2).2) := runOn_ask r _

theorem runOn_bind_some {p : Script α} {f : α → Script β} {a : α} (h : (p.runOn st s).1.result = some a) :
    (p >>= f).runOn st s =
      (⟨((f a).runOn st (p.runOn st s).2).1.result,
        (p.runOn st s).1.steps ++ ((f a).runOn st (p.runOn st s).2).1.steps⟩,
        ((f a).runOn st (p.runOn st s).2).2) := by
  change (p.bind f).runOn st s = _
  induction p generalizing s with
  | done b =>
    cases h
    rfl
  | abort => cases h
  | tell e next ih =>
    rw [runOn_tell] at h ⊢
    rw [bind, runOn_tell, ih h]
    rfl
  | ask r next ih =>
    rw [runOn_ask] at h ⊢
    rw [bind, runOn_ask, ih _ h]
    rfl

theorem runOn_keeps (fit : σ → Prop) (hfit : ∀ s r, fit s → fit (st r s).2) (p : Script α) (hs : fit s) :
    fit (p.runOn st s).2 := by
  induction p generalizing s with
  | done a => exact hs
  | abort => exact hs
  | tell e next ih =>
    rw [runOn_tell]
    exact ih hs
  | ask r next ih =>
    rw [runOn_ask]
    exact ih _ (hfit s r hs)

theorem clean_of_bind {p : Script α} {f : α → Script β} (h : Clean ((p >>= f).runOn st s).1.steps) :
    Clean (p.runOn st s).1.steps := by
  change Clean ((p.bind f).runOn st s).1.steps at h
  induction p generalizing s with
  | done a => exact clean_nil
  | abort => exact clean_nil
  | tell e next ih =>
    rw [bind, runOn_tell] at h
    rw [runOn_tell]
    exact (clean_told e _).2 (ih ((clean_told e _).1 h))
  | ask r next ih =>
    rw [bind, runOn_ask] at h
    rw [runOn_ask]
    obtain ⟨hr, hnext⟩ := (clean_asked r _ _).1 h
    exact (clean_asked r _ _).2 ⟨hr, ih _ hnext⟩

end

/-- Whatever requests are answered, the script comes to its end, with steps and a result of that kind. -/
def Ensures : Script α → (List Step → α → Prop) → Prop
  | done a, P => P [] a
  | abort, _ => False
  | tell e next, P => next.Ensures fun l => P (.told e :: l)
  | ask r next, P => ∀ a, (next a).Ensures fun l => P (.asked r (failure? a) :: l)

theorem Ensures.mono {p : Script α} {P Q : List Step → α → Prop} (h : p.Ensures P) (hpq : ∀ l a, P l a → Q l a) :
    p.Ensures Q := by
  induction p generalizing P Q with
  | done a => exact hpq [] a h
  | abort => exact h
  | tell e next ih => exact ih h fun l a => hpq (.told e :: l) a
  | ask r next ih => exact fun a => ih a (h a) fun l b => hpq (.asked r (failure? a) :: l) b

theorem ensures_bind {p : Script α} {f : α → Script β} {P : List Step → β → Prop} :
    (p >>= f).Ensures P ↔ p.Ensures fun l a => (f a).Ensures fun m b => P (l ++ m) b := by
  change (p.bind f).Ensures P ↔ _
  induction p generalizing P with
  | done a => exact Iff.rfl
  | abort => exact Iff.rfl
  | tell e next ih => exact ih
  | ask r next ih => exact forall_congr' fun a => ih a

theorem ensures_request {r : Request} {P : List Step → Except StoreError r.Answer → Prop} :
    (request r).Ensures P ↔ ∀ a, P [.asked r (failure? a)] a := Iff.rfl

theorem Ensures.runOn {p : Script α} {P : List Step → α → Prop} (h : p.Ensures P) (st : Store (StateM σ)) (s : σ) :
    ∃ a, (p.runOn st s).1.result = some a ∧ P (p.runOn st s).1.steps a := by
  induction p generalizing P s with
  | done a => exact ⟨a, rfl, h⟩
  | abort => exact h.elim
  | tell e next ih =>
    rw [runOn_tell]
    exact ih h s
  | ask r next ih =>
    rw [runOn_ask]
    exact ih _ (h _) _

section

variable {ε ε' : Type}

def Faithful (p : Script (Except ε α)) : Prop := p.Ensures fun l r => ∀ a, r = .ok a → Clean l

theorem faithful_request (r : Request) : (request r).Faithful := by
  rintro (e | a)
  · rintro _ ⟨⟩
  · exact fun _ _ => by simp [failure?]

theorem faithful_ok (a : α) : (pure (.ok a) : Script (Except ε α)).Faithful := fun _ _ => clean_nil

theorem faithful_error (e : ε) : (pure (.error e) : Script (Except ε α)).Faithful := by
  rintro a ⟨⟩

theorem Faithful.bind {p : Script (Except ε α)} {k : Except ε α → Script (Except ε' β)} (hp : p.Faithful)
    (herror : ∀ e, ∃ e', k (.error e) = pure (.error e')) (hok : ∀ a, (k (.ok a)).Faithful) : (p >>= k).Faithful := by
  unfold Faithful
  rw [ensures_bind]
  refine hp.mono fun l r hl => ?_
  cases r with
  | error e =>
    obtain ⟨e', he⟩ := herror e
    rw [he]
    rintro b ⟨⟩
  | ok a => exact (hok a).mono fun m _ hm b hb => (clean_append l m).2 ⟨hl a rfl, hm b hb⟩

end

end Script

namespace Store.Backed

variable {st : Store (StateM σ)} {hive : σ → Hive}

theorem hive_runOn (hst : st.Backed hive) (p : Script α) {s : σ} (h : Clean (p.runOn st s).1.steps) :
    hive (p.runOn st s).2 = effects (p.runOn st s).1.steps (hive s) := by
  induction p generalizing s with
  | done a => rfl
  | abort => rfl
  | tell e next ih =>
    rw [Script.runOn_tell] at h ⊢
    exact ih ((clean_told e _).1 h)
  | ask r next ih =>
    rw [Script.runOn_ask] at h ⊢
    obtain ⟨hr, hnext⟩ := (clean_asked r _ _).1 h
    obtain ⟨a, ha⟩ := failure?_eq_none.1 hr
    have hafter : hive (st r s).2 = (hive s).after r := hst.after ha
    refine (ih _ hnext).trans ?_
    rw [hafter]
    rfl

theorem runOn_of_clean (hst : st.Backed hive) (p : Script α) {s : σ} (h : Clean (p.runOn st s).1.steps) :
    (p.runOn hiveStore (hive s)).1 = (p.runOn st s).1 := by
  induction p generalizing s with
  | done a => rfl
  | abort => rfl
  | tell e next ih =>
    rw [Script.runOn_tell] at h ⊢
    exact congrArg (·.cons (.told e)) (ih ((clean_told e _).1 h))
  | ask r next ih =>
    rw [Script.runOn_ask] at h ⊢
    obtain ⟨hr, hnext⟩ := (clean_asked r _ _).1 h
    obtain ⟨a, ha⟩ := failure?_eq_none.1 hr
    have hanswer : (hiveStore r (hive s)).1 = (st r s).1 := (hst.answer ha).trans ha.symm
    have hafter : (hiveStore r (hive s)).2 = hive (st r s).2 := (hst.after ha).symm
    rw [Script.runOn_ask, hanswer, hafter, ih _ hnext]

theorem hive_of_clean (hst : st.Backed hive) (p : Script α) {s : σ} (h : Clean (p.runOn st s).1.steps) :
    hive (p.runOn st s).2 = (p.runOn hiveStore (hive s)).2 := by
  have hsame := hst.runOn_of_clean p h
  have hhive := hiveStore_backed.hive_runOn p (s := hive s) (by rwa [hsame])
  rw [hst.hive_runOn p h, ← hsame]
  exact hhive.symm

end Store.Backed

end XrPanel
