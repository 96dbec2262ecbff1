import SensorCatalog.Proofs.Text.Trailing
import SensorCatalog.Url.Reference
import Mathlib.Data.List.TakeWhile

/-!
# Where an authority ends

In the schemes that the web knows, an authority goes up to the first slash or mark of the text. Host
and port are read from a text that does not stop there, but they never look further, and they leave
nothing before it. So the text can be cut there (`authority_append`), and what is put behind the
text comes behind what the authority leaves (`authority_append_of_eq_ok`).

## Main definitions

* `Url.isEnd`, `Url.afterAuthority`: the characters that end an authority, and what they leave.

## Main results

* `Url.authority_append`: an authority is read from the text before its end.
* `Url.eq_afterAuthority`, `Url.authority_append_of_eq_ok`: what an authority leaves.
-/

namespace SensorCatalog.Url

variable {scheme : String}

/-- The characters that end an authority in the schemes that the web knows. -/
def isEnd (c : Char) : Bool :=
  isSlash true c || isMark c

/-- What an authority leaves of a text. -/
def afterAuthority (cs : List Char) : List Char :=
  cs.dropWhile fun c => !isEnd c

theorem isDigit_eq_false_of_isEnd {c : Char} (h : isEnd c) : c.isDigit = false := by
  simp only [isEnd, isSlash, isMark, Bool.true_and, Bool.or_eq_true, beq_iff_eq] at h
  rcases h with (rfl | rfl) | (rfl | rfl) <;> rfl

/-! ### Hosts and ports before the end -/

section

variable {text back : List Char}

/-- What follows is `back`, at whose front an authority would end. -/
theorem hostLength_append (htext : ∀ c ∈ text, isEnd c = false) (hback : ∀ c ∈ back.head?, isEnd c)
    (inBrackets : Bool) : hostLength true inBrackets (text ++ back) =
      hostLength true inBrackets text := by
  induction text generalizing inBrackets with
  | nil =>
    cases back with
    | nil => rfl
    | cons c back =>
      have hc : isSlash true c || isMark c := hback c rfl
      rw [List.nil_append, hostLength.eq_2, Bool.or_assoc, hc, Bool.or_true, if_pos rfl, hostLength]
  | cons c text ih =>
    have htext := List.forall_mem_cons.1 htext
    simp only [List.cons_append, hostLength, ih htext.2]

theorem hostLength_le (inBrackets : Bool) (text : List Char) :
    hostLength true inBrackets text ≤ text.length := by
  induction text generalizing inBrackets with
  | nil => rfl
  | cons c text ih =>
    rw [hostLength]
    split
    · exact Nat.zero_le _
    · exact Nat.succ_le_succ (ih _)

/-- A host before the end of an authority goes up to a colon, if it does not fill the text. -/
theorem eq_colon_of_drop_hostLength (htext : ∀ c ∈ text, isEnd c = false) {inBrackets : Bool}
    {c : Char} {rest : List Char} (h : text.drop (hostLength true inBrackets text) = c :: rest) :
    c = ':' := by
  induction text generalizing inBrackets with
  | nil => cases h
  | cons d text ih =>
    have htext := List.forall_mem_cons.1 htext
    rw [hostLength, Bool.or_assoc, show (isSlash true d || isMark d) = false from htext.1] at h
    split at h
    · next hd =>
      simp only [Bool.or_false, Bool.and_eq_true, beq_iff_eq] at hd
      rw [List.drop_zero, hd.1] at h
      exact (List.cons.inj h).1.symm
    · exact ih htext.2 h

/-- Digits that end where an authority ends are a port, and nothing else is left. -/
theorem port_append (htext : ∀ c ∈ text, isEnd c = false) (hback : ∀ c ∈ back.head?, isEnd c) :
    port scheme (text ++ back) = (fun r => (r.1, back)) <$> port scheme text := by
  have hblocks (c : Char) : (!isSlash true c && !isMark c) = !isEnd c := (Bool.not_or _ _).symm
  by_cases hdigits : ∀ c ∈ text, c.isDigit
  · have hends : ∀ c ∈ back.head?, ¬ c.isDigit := fun c hc => by
      simp [isDigit_eq_false_of_isEnd (hback c hc)]
    have hany : back.head?.any (fun c => !isEnd c) = false := by
      cases back with
      | nil => rfl
      | cons c back => simp [hback c rfl]
    simp only [port, Text.takeWhile_append_of_head? hdigits hends,
      Text.dropWhile_append_of_head? hdigits hends, hblocks, hany,
      List.takeWhile_eq_self_iff.2 hdigits, List.dropWhile_eq_nil_iff.2 hdigits]
    split <;> rfl
  · obtain ⟨c, rest, hrest⟩ := List.exists_cons_of_ne_nil (mt List.dropWhile_eq_nil_iff.1 hdigits)
    have hc : isEnd c = false :=
      htext c ((List.dropWhile_sublist _).subset (hrest ▸ List.mem_cons_self))
    simp only [port, List.dropWhile_append, hrest, hblocks]
    simp [hc]

theorem hostAndPort_append (hscheme : isSpecial scheme) (htext : ∀ c ∈ text, isEnd c = false)
    (hback : ∀ c ∈ back.head?, isEnd c) : hostAndPort scheme (text ++ back) =
      (fun r => (r.1, r.2.1, back)) <$> hostAndPort scheme text := by
  have hle := hostLength_le false text
  simp only [hostAndPort, hscheme, hostLength_append htext hback, Bool.true_or, Bool.and_true,
    List.take_append_of_le_length hle, List.drop_append_of_le_length hle]
  split
  · rfl
  · cases Host.parse true (text.take (hostLength true false text)) with
    | error fault => rfl
    | ok host =>
      cases hrest : text.drop (hostLength true false text) with
      | nil =>
        -- The host fills the text, and no colon stands at the front of what follows.
        cases back with
        | nil => rfl
        | cons c back =>
          have hc : c ≠ ':' := by
            rintro rfl
            exact absurd (hback ':' rfl) (by decide)
          simp only [List.nil_append]
          split
          · next h => exact absurd (List.cons.inj h).1 hc
          · rfl
      | cons c rest =>
        obtain rfl := eq_colon_of_drop_hostLength htext hrest
        have hrest : ∀ c ∈ rest, isEnd c = false := fun c hc =>
          htext c (List.mem_of_mem_drop (hrest ▸ List.mem_cons_of_mem _ hc))
        simp only [List.cons_append, port_append hrest hback]
        cases port scheme rest <;> rfl

end

/-! ### Authorities before the end -/

theorem mem_of_mem_splitCredentials {cs : List Char} {c : Char} (h : c ∈ (splitCredentials cs).2) :
    c ∈ cs := by
  rw [splitCredentials] at h
  split at h
  · exact List.mem_reverse.1
      ((List.takeWhile_sublist _).subset (List.mem_reverse.1 h))
  · exact h

theorem hostAndPort_nil (hscheme : isSpecial scheme) :
    hostAndPort scheme [] = .error .emptyHost := by
  simp [hostAndPort, hscheme]

theorem authority_nil (hscheme : isSpecial scheme) : authority scheme [] = .error .emptyHost := by
  have hnil : splitCredentials [] = (none, []) := rfl
  simp only [authority, List.takeWhile_nil, List.dropWhile_nil, hnil, List.append_nil,
    hostAndPort_nil hscheme]
  rfl

section

variable {front back : List Char}

theorem takeWhile_append_of_isEnd (hfront : ∀ c ∈ front, isEnd c = false)
    (hback : ∀ c ∈ back.head?, isEnd c) :
    (front ++ back).takeWhile (fun c => !isEnd c) = front :=
  Text.takeWhile_append_of_head? (by simpa using hfront) (by simpa using hback)

theorem afterAuthority_append (hfront : ∀ c ∈ front, isEnd c = false)
    (hback : ∀ c ∈ back.head?, isEnd c) : afterAuthority (front ++ back) = back :=
  Text.dropWhile_append_of_head? (by simpa using hfront) (by simpa using hback)

/-- **An authority is read from the text before its end**, and it leaves what begins there. -/
theorem authority_append (hscheme : isSpecial scheme) (hfront : ∀ c ∈ front, isEnd c = false)
    (hback : ∀ c ∈ back.head?, isEnd c) :
    authority scheme (front ++ back) = (fun r => (r.1, back)) <$> authority scheme front := by
  have htake := takeWhile_append_of_isEnd hfront hback
  have hdrop := afterAuthority_append hfront hback
  have hnone : ∀ c ∈ ([] : List Char).head?, isEnd c := by simp
  have htake' := takeWhile_append_of_isEnd hfront hnone
  have hdrop' := afterAuthority_append hfront hnone
  rw [List.append_nil] at htake' hdrop'
  rw [afterAuthority] at hdrop hdrop'
  simp only [isEnd] at htake htake' hdrop hdrop'
  have htext : ∀ c ∈ (splitCredentials front).2, isEnd c = false := fun c hc =>
    hfront c (mem_of_mem_splitCredentials hc)
  simp only [authority, hscheme, htake, htake', hdrop, hdrop', List.append_nil,
    hostAndPort_append hscheme htext hback]
  cases (splitCredentials front).1 with
  | none => cases hostAndPort scheme (splitCredentials front).2 <;> rfl
  | some written =>
    cases hempty : written.isEmpty && (splitCredentials front).2.isEmpty with
    | true =>
      -- Nothing but the sign of credentials: there is no host either way.
      obtain ⟨hwritten, htext⟩ : written = [] ∧ (splitCredentials front).2 = [] := by
        simpa using hempty
      simp only [hwritten, htext, hostAndPort_nil hscheme]
      cases back <;> rfl
    | false =>
      simp only [hempty, Bool.false_and, Bool.false_eq_true, if_false]
      cases hostAndPort scheme (splitCredentials front).2 with
      | error fault => rfl
      | ok r =>
        simp only [bind, Except.bind, Functor.map, Except.map]
        split <;> split <;> rfl

end

/-! ### What an authority leaves -/

variable {cs rest : List Char} {a : Authority}

/-- A text with an authority is cut where the authority ends, and there it may go on in any way. -/
theorem exists_front_of_authority (hscheme : isSpecial scheme)
    (h : authority scheme cs = .ok (a, rest)) :
    ∃ front, cs = front ++ rest ∧ (∀ c ∈ front, isEnd c = false) ∧ (∀ c ∈ rest.head?, isEnd c) ∧
      ∀ back, (∀ c ∈ back.head?, isEnd c) → authority scheme (front ++ back) = .ok (a, back) := by
  have hcs : cs = cs.takeWhile (fun c => !isEnd c) ++ afterAuthority cs :=
    List.takeWhile_append_dropWhile.symm
  have hfront : ∀ c ∈ cs.takeWhile fun c => !isEnd c, isEnd c = false := fun c hc => by
    simpa using List.mem_takeWhile_imp hc
  have hend : ∀ c ∈ (afterAuthority cs).head?, isEnd c := fun c hc => by
    simpa using Text.not_of_mem_head?_dropWhile hc
  rw [hcs, authority_append hscheme hfront hend] at h
  cases hread : authority scheme (cs.takeWhile fun c => !isEnd c) with
  | error fault =>
    rw [hread] at h
    cases h
  | ok r =>
    rw [hread] at h
    obtain ⟨rfl, rfl⟩ : r.1 = a ∧ afterAuthority cs = rest := Prod.mk.inj (Except.ok.inj h)
    refine ⟨_, hcs, hfront, hend, fun back hback => ?_⟩
    rw [authority_append hscheme hfront hback, hread]
    rfl

theorem eq_afterAuthority (hscheme : isSpecial scheme) (h : authority scheme cs = .ok (a, rest)) :
    rest = afterAuthority cs := by
  obtain ⟨front, rfl, hfront, hend, -⟩ := exists_front_of_authority hscheme h
  exact (afterAuthority_append hfront hend).symm

/-- What is put behind a text comes behind what the authority leaves, unless the authority goes on
with it. -/
theorem authority_append_of_eq_ok (hscheme : isSpecial scheme)
    (h : authority scheme cs = .ok (a, rest)) {t : List Char}
    (ht : rest = [] → ∀ c ∈ t.head?, isEnd c) :
    authority scheme (cs ++ t) = .ok (a, rest ++ t) := by
  obtain ⟨front, rfl, -, hend, hread⟩ := exists_front_of_authority hscheme h
  rw [List.append_assoc]
  refine hread _ fun c hc => ?_
  cases rest with
  | nil => exact ht rfl c hc
  | cons b rest => exact hend c hc

end SensorCatalog.Url
