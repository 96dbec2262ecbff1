import SensorCatalog.Json.Strings
import Mathlib.Data.List.TakeWhile

/-!
# What readers find

A reader is told by what it takes off the front of a text, whatever comes after that. Readers that
are run one after the other find what their texts say, one text after the other.

## Main definitions

* `Json.Reader.run?`: what a reader finds in a text, and what it leaves.
* `Json.Reads`: a reader finds a value in a text and leaves what follows.
* `Json.Carries`: a state is carried from member to member.

## Main results

* `Json.Reads.bind`: one reader after the other.
* `Json.Carries.perm`: steps that can be exchanged, in any order.
* `Json.run?_foldMembers_closed`, `Json.run?_foldMembers_opened`: the loop over the members of an
  object.
-/

namespace SensorCatalog.Json

variable {α β σ : Type}

/-! ### Running a reader -/

/-- What has been found, and what is left of the text. -/
def found? {text : List Char} (x : Except Failure (Step α text)) : Option (α × List Char) :=
  x.toOption.map fun s => (s.value, s.rest)

/-- What a reader finds in a text, and what it leaves. -/
def Reader.run? (r : Reader α) (text : List Char) : Option (α × List Char) :=
  found? (r text)

theorem exists_eq_ok_of_found? {text rest : List Char} {x : Except Failure (Step α text)} {a : α}
    (h : found? x = some (a, rest)) : ∃ le, x = .ok ⟨a, rest, le⟩ := by
  cases x with
  | error e => cases h
  | ok s =>
    cases h
    exact ⟨s.length_le, rfl⟩

theorem found?_map_widen {text rest : List Char} (h : rest.length ≤ text.length)
    (x : Except Failure (Step α rest)) : found? (x.map (Step.widen h)) = found? x := by
  cases x <;> rfl

theorem run?_bind (r : Reader α) (f : α → Reader β) (text : List Char) :
    (r >>= f).run? text = (r.run? text).bind fun p => (f p.1).run? p.2 := by
  change found? (r.bind f text) = _
  rw [Reader.run?, Reader.bind]
  cases r text with
  | error e => rfl
  | ok step => exact found?_map_widen _ _

/-- A reader finds a value in a text and leaves what follows. -/
def Reads (r : Reader α) (front : List Char) (a : α) : Prop :=
  ∀ rest, r.run? (front ++ rest) = some (a, rest)

theorem reads_pure (a : α) : Reads (pure a) [] a :=
  fun _ => rfl

/-- **One reader after the other** finds what is found in one text after the other. -/
theorem Reads.bind {r : Reader α} {f : α → Reader β} {front back : List Char} {a : α} {b : β}
    (h : Reads r front a) (h' : Reads (f a) back b) : Reads (r >>= f) (front ++ back) b := by
  intro rest
  rw [run?_bind, List.append_assoc, h, Option.bind_some, h']

/-- A reader followed by one that reads nothing. -/
theorem Reads.bind_pure {r : Reader α} {f : α → Reader β} {front : List Char} {a : α} {b : β}
    (h : Reads r front a) (h' : f a = pure b) : Reads (r >>= f) front b := by
  have hread := h.bind (h' ▸ reads_pure b)
  rwa [List.append_nil] at hread

/-! ### Blanks and marks -/

/-- A text of blanks only. -/
def IsBlanks (cs : List Char) : Prop :=
  ∀ c ∈ cs, isBlank c

theorem isBlanks_nil : IsBlanks [] :=
  List.forall_mem_nil _

theorem skipBlanks_append_cons {blanks : List Char} (h : IsBlanks blanks) {c : Char}
    (hc : isBlank c = false) (rest : List Char) : skipBlanks (blanks ++ c :: rest) = c :: rest := by
  rw [skipBlanks, List.dropWhile_append_of_pos h, List.dropWhile_cons_of_neg (by simp [hc])]

theorem skipBlanks_eq_nil {blanks : List Char} (h : IsBlanks blanks) : skipBlanks blanks = [] :=
  List.dropWhile_eq_nil_iff.2 h

theorem reads_colon {blanks : List Char} (h : IsBlanks blanks) :
    Reads colon (blanks ++ [':']) () := by
  intro rest
  have hskip := skipBlanks_append_cons h (c := ':') rfl rest
  rw [List.append_assoc, List.singleton_append, Reader.run?, colon]
  split
  case h_1 rest' heq =>
    obtain rfl := (List.cons.inj (hskip.symm.trans heq)).2
    rfl
  case h_2 heq => cases hskip.symm.trans heq
  case h_3 hne _ => exact (hne rest hskip).elim

/-! ### Members of an object -/

/-- Steps carry a state from one element of a list to the next. -/
inductive Carries (step : σ → β → σ → Prop) : σ → List β → σ → Prop
  | nil (s : σ) : Carries step s [] s
  | cons {s s' s'' : σ} {b : β} {bs : List β} (h : step s b s') (hrest : Carries step s' bs s'') :
    Carries step s (b :: bs) s''

theorem Carries.imp {step step' : σ → β → σ → Prop} {s s' : σ} {bs : List β}
    (h : Carries step s bs s') (hstep : ∀ {s b s'}, step s b s' → step' s b s') :
    Carries step' s bs s' := by
  induction h with
  | nil s => exact .nil s
  | cons h _ ih => exact .cons (hstep h) ih

/-- A fold that takes the steps ends where they lead. -/
theorem Carries.foldlM_eq {step : σ → β → σ → Prop} {f : σ → β → Option σ} {s s' : σ} {bs : List β}
    (h : Carries step s bs s') (hf : ∀ {s b s'}, step s b s' → f s b = some s') :
    bs.foldlM f s = some s' := by
  induction h with
  | nil s => rfl
  | cons h _ ih => rw [List.foldlM_cons, hf h, Option.bind_eq_bind, Option.bind_some, ih]

/-- Steps that can be exchanged carry a state to the same place in any order. -/
theorem Carries.perm {step : σ → β → σ → Prop} {s s' : σ} {bs bs' : List β}
    (hswap : ∀ {s b s₁ b' s₂}, step s b s₁ → step s₁ b' s₂ →
      ∃ s₁', step s b' s₁' ∧ step s₁' b s₂)
    (h : Carries step s bs s') (hperm : bs.Perm bs') : Carries step s bs' s' := by
  induction hperm generalizing s with
  | nil => exact h
  | cons b _ ih =>
    cases h with
    | cons hb hrest => exact .cons hb (ih hrest)
  | swap b b' bs =>
    obtain _ | ⟨hb, _ | ⟨hb', hrest⟩⟩ := h
    obtain ⟨_, hb', hb⟩ := hswap hb hb'
    exact .cons hb' (.cons hb hrest)
  | trans _ _ ih ih' => exact ih' (ih h)

section

variable {key : Reader String} {member : σ → String → Reader σ} {isFirst : Bool} {state : σ}
  {text rest : List Char}

theorem nextKey_closed (h : skipBlanks text = '}' :: rest) :
    ∃ lt, nextKey isFirst text = .ok (.closed rest lt) := by
  refine ⟨length_lt_of_skipBlanks h, ?_⟩
  rw [nextKey]
  split
  case h_1 rest' heq =>
    obtain rfl := (List.cons.inj (h.symm.trans heq)).2
    rfl
  case h_2 heq => cases h.symm.trans heq
  case h_3 c rest' hne heq => exact absurd (List.cons.inj (h.symm.trans heq)).1.symm hne

theorem nextKey_first (h : skipBlanks text = '"' :: rest) :
    ∃ lt, nextKey true text = .ok (.opened rest lt) := by
  refine ⟨length_lt_of_skipBlanks h, ?_⟩
  rw [nextKey]
  split
  case h_1 heq => cases h.symm.trans heq
  case h_2 heq => cases h.symm.trans heq
  case h_3 c rest' hne heq =>
    obtain ⟨rfl, rfl⟩ := List.cons.inj (h.symm.trans heq)
    rfl

theorem nextKey_later {inner : List Char} (h : skipBlanks text = ',' :: rest)
    (h' : skipBlanks rest = '"' :: inner) :
    ∃ lt, nextKey false text = .ok (.opened inner lt) := by
  refine ⟨(length_lt_of_skipBlanks h').trans (length_lt_of_skipBlanks h), ?_⟩
  rw [nextKey]
  split
  case h_1 heq => cases h.symm.trans heq
  case h_2 heq => cases h.symm.trans heq
  case h_3 c rest' hne heq =>
    obtain ⟨rfl, rfl⟩ := List.cons.inj (h.symm.trans heq)
    rw [if_neg Bool.false_ne_true, if_pos rfl]
    split
    case h_1 inner' heq' =>
      obtain rfl := (List.cons.inj (h'.symm.trans heq')).2
      rfl
    case h_2 heq' => cases h'.symm.trans heq'
    case h_3 heq' => cases h'.symm.trans heq'
    case h_4 hquote _ _ => exact (hquote inner h').elim

theorem run?_foldMembers_closed (h : skipBlanks text = '}' :: rest) :
    Reader.run? (foldMembers key member isFirst state) text = some (state, rest) := by
  obtain ⟨_, hnext⟩ := @nextKey_closed isFirst text rest h
  change found? (foldMembers key member isFirst state text) = _
  rw [foldMembers, hnext]
  rfl

theorem run?_foldMembers_opened {lt : rest.length < text.length}
    (h : nextKey isFirst text = .ok (.opened rest lt)) :
    Reader.run? (foldMembers key member isFirst state) text =
      (key.run? rest).bind fun name =>
        ((member state name.1).run? name.2).bind fun next =>
          Reader.run? (foldMembers key member false next.1) next.2 := by
  change found? (foldMembers key member isFirst state text) = (found? (key rest)).bind _
  rw [foldMembers, h]
  dsimp only
  cases key rest with
  | error e => rfl
  | ok name =>
    change _ = (found? (member state name.value name.rest)).bind _
    dsimp only
    cases member state name.value name.rest with
    | error e => rfl
    | ok next => exact found?_map_widen _ _

end

end SensorCatalog.Json
