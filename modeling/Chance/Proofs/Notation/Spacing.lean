import Chance.Proofs.Notation.Joining
import Chance.Proofs.Notation.Partition

namespace Chance

/-- Gaps before, between and after the tokens. Only a gap next to a plus sign can be empty. -/
structure Spacing (ts : List Token) (w : List Char) (ws : List (List Char)) : Prop where
  length_eq : ws.length = ts.length
  blank_first : Blank w
  blank : ∀ v ∈ ws, Blank v
  apart : ∀ i t u, ts[i]? = some t → ts[i + 1]? = some u → ws[i]? = some [] →
    t.kind = .plus ∨ u.kind = .plus

theorem Spacing.exists_cons {t : Token} {ts : List Token} {w : List Char} {ws : List (List Char)}
    (h : Spacing (t :: ts) w ws) :
    ∃ v vs, ws = v :: vs ∧ Spacing ts v vs ∧
      (v = [] → ∀ u ∈ ts.head?, t.kind = .plus ∨ u.kind = .plus) := by
  obtain ⟨hlength, -, hblank, hapart⟩ := h
  cases ws with
  | nil => simp at hlength
  | cons v vs =>
    obtain ⟨hv, hvs⟩ := List.forall_mem_cons.mp hblank
    refine ⟨v, vs, rfl, ⟨Nat.succ.inj hlength, hv, hvs, ?_⟩, ?_⟩
    · intro i t u ht hu hgap
      exact hapart (i + 1) t u ht hu hgap
    · rintro rfl u hu
      exact hapart 0 t u rfl (by simpa [List.head?_eq_getElem?] using hu) rfl

namespace Token

def word (t : Token) : TokenKind × List Char := (t.kind, t.lexeme)

theorem Leads.alone {k : TokenKind} {l rest : List Char} (h : Leads k l rest) : Leads k l [] := by
  cases h with
  | dice hcs hss hne => exact .dice hcs hss hne rfl
  | integer hds hne => exact .integer hds hne rfl rfl
  | plus => exact .plus
  | @unknown c _ hblank hdigit hplus =>
    refine .unknown hblank hdigit hplus ?_
    by_cases hc : c = 'd'
    · rw [hc]
      rfl
    · exact sidesPart_of_ne hc []

theorem closing_layout {start : Nat} {s v : List Char} {ts : List Token} {vs : List (List Char)}
    (h : Lexes start s ts) (hsp : Spacing ts v vs)
    (hplus : v = [] → ∀ u ∈ ts.head?, u.kind = .plus) : Closing (layout v ts vs) := by
  by_cases hv : v = []
  · cases h with
    | done => simp [hv, layout_nil, Closing]
    | token _ hl =>
      obtain ⟨x, xs, rfl, -⟩ := hsp.exists_cons
      obtain rfl := hplus hv _ rfl
      cases hl
      simp [hv, layout_cons, Closing]
  · exact closing_blank_append hsp.blank_first hv _

theorem Lexes.respaced {start : Nat} {s : List Char} {ts : List Token} (h : Lexes start s ts)
    (start' : Nat) {w : List Char} {ws : List (List Char)} (hsp : Spacing ts w ws) :
    ∃ us, Lexes start' (layout w ts ws) us ∧ us.map word = ts.map word := by
  induction h generalizing start' w ws with
  | done =>
    rw [layout_nil]
    exact ⟨[], .done hsp.blank_first, rfl⟩
  | @token start _ l rest k ts _ hl hrest ih =>
    obtain ⟨v, vs, rfl, htail, hgap⟩ := hsp.exists_cons
    obtain ⟨us, hus, hwords⟩ := ih (start' + byteLength w + byteLength l) htail
    rw [layout_cons]
    refine ⟨_, .token hsp.blank_first ?_ hus, congrArg ((k, l) :: ·) hwords⟩
    by_cases hk : k = .plus
    · subst hk
      cases hl
      exact .plus
    · have hplus : v = [] → ∀ u ∈ ts.head?, u.kind = .plus := by
        intro hv u hu
        exact (hgap hv u hu).resolve_left hk
      exact hl.alone.append (closing_layout hrest htail hplus)

theorem scan_respaced (s : List Char) {w : List Char} {ws : List (List Char)}
    (hsp : Spacing (scan 0 s) w ws) :
    (scan 0 (layout w (scan 0 s) ws)).map word = (scan 0 s).map word := by
  obtain ⟨us, hus, hwords⟩ := (lexes_scan 0 s).respaced 0 hsp
  rw [hus.scan_eq, hwords]

section

variable {t u : Token} {ts us : List Token} {p : Nat}

theorem holds_of_word (h : u.word = t.word) {x : Term} (ht : t.Holds x) : u.Holds x := by
  obtain ⟨k, start, l⟩ := t
  obtain ⟨j, stop, m⟩ := u
  obtain ⟨rfl, rfl⟩ := Prod.mk.inj h
  cases x <;> exact ht

theorem offends_of_word (h : u.word = t.word) (p : Nat) : u.Offends p ↔ t.Offends p := by
  obtain ⟨k, start, l⟩ := t
  obtain ⟨j, stop, m⟩ := u
  obtain ⟨rfl, rfl⟩ := Prod.mk.inj h
  rfl

theorem complaint_of_word (h : u.word = t.word) (p : Nat) : u.complaint p = t.complaint p := by
  obtain ⟨k, start, l⟩ := t
  obtain ⟨j, stop, m⟩ := u
  obtain ⟨rfl, rfl⟩ := Prod.mk.inj h
  rfl

theorem exists_of_map_word (h : us.map word = ts.map word) (ht : ts[p]? = some t) :
    ∃ u, us[p]? = some u ∧ u.word = t.word := by
  apply Option.map_eq_some_iff.mp
  rw [← List.getElem?_map, h, List.getElem?_map, ht]
  rfl

theorem FirstOffence.of_map_word (h : us.map word = ts.map word) (ht : FirstOffence ts p t) :
    ∃ u, FirstOffence us p u ∧ u.word = t.word := by
  obtain ⟨hget, hoff, hbefore⟩ := ht
  obtain ⟨u, hu, hword⟩ := exists_of_map_word h hget
  refine ⟨u, ⟨hu, (offends_of_word hword p).mpr hoff, ?_⟩, hword⟩
  intro q v hq hv
  obtain ⟨x, hx, hword⟩ := exists_of_map_word h.symm hv
  rw [← offends_of_word hword]
  exact hbefore q x hq hx

theorem Unoffending.of_map_word (h : us.map word = ts.map word) (hts : Unoffending ts) :
    Unoffending us := by
  intro q v hv
  obtain ⟨x, hx, hword⟩ := exists_of_map_word h.symm hv
  rw [← offends_of_word hword]
  exact hts q x hx

end

end Token

namespace Expression

open Token

section

variable {length length' : Nat} {ts us : List Token}

theorem ofTokens_eq_ok_of_map_word {e : Expression} (h : us.map word = ts.map word)
    (he : ofTokens length ts = .ok e) : ofTokens length' us = .ok e := by
  induction ts using ofTokens.induct generalizing us e with
  | case1 => cases he
  | case2 t =>
    obtain ⟨u, rfl, hu⟩ := List.map_eq_singleton_iff.mp h
    obtain ⟨x, hx, rfl⟩ := ofTokens_singleton_eq_ok.mp he
    exact ofTokens_singleton_eq_ok.mpr ⟨x, holds_of_word hu hx, rfl⟩
  | case3 t plus ts ih =>
    obtain ⟨u, us, rfl, hu, h⟩ := List.map_eq_cons_iff.mp h
    obtain ⟨sign, us, rfl, hsign, h⟩ := List.map_eq_cons_iff.mp h
    obtain ⟨x, d, hx, hplus, hd, rfl⟩ := ofTokens_cons_cons_eq_ok.mp he
    have hkind : sign.kind = .plus := (congrArg Prod.fst hsign).trans hplus
    exact ofTokens_cons_cons_eq_ok.mpr ⟨x, d, holds_of_word hu hx, hkind, ih h hd, rfl⟩

theorem ofTokens_incomplete_of_map_word {e : ParseError} (h : us.map word = ts.map word)
    (he : ofTokens length ts = .error e) (hend : e.Incomplete) :
    ofTokens length' us = .error ⟨e.reason, ⟨length', length'⟩, e.slice⟩ := by
  rcases ofTokens_eq_error he with ⟨p, t, -, rfl⟩ | ⟨hall, heven, rfl⟩
  · exact absurd hend (not_incomplete_complaint t p)
  · have hlength : us.length = ts.length := by
      simpa only [List.length_map] using congrArg List.length h
    have hshort := ofTokens_of_unoffending length' (hall.of_map_word h)
    rwa [hlength, if_pos heven] at hshort

theorem ofTokens_eq_error_of_map_word {e : ParseError} (h : us.map word = ts.map word)
    (he : ofTokens length ts = .error e) (hnot : ¬ e.Incomplete) :
    ∃ (p : Nat) (t u : Token), ts[p]? = some t ∧ us[p]? = some u ∧ e.span = t.span ∧
      ofTokens length' us = .error ⟨e.reason, u.span, e.slice⟩ := by
  rcases ofTokens_eq_error he with ⟨p, t, ht, rfl⟩ | ⟨-, -, rfl⟩
  · obtain ⟨u, hu, hword⟩ := ht.of_map_word h
    have hlexeme : u.lexeme = t.lexeme := congrArg Prod.snd hword
    refine ⟨p, t, u, ht.1, hu.1, rfl, ?_⟩
    rw [ofTokens_of_firstOffence hu, complaint_of_word hword, error, hlexeme]
    rfl
  · exact absurd ⟨_, rfl⟩ hnot

end

theorem parse_respaced (s : String) (w : List Char) (ws : List (List Char))
    (h : Spacing (scan 0 s.toList) w ws) :
    let s' := String.ofList (layout w (scan 0 s.toList) ws)
    (scan 0 s'.toList).map word = (scan 0 s.toList).map word ∧
    (∀ e, parse s = .ok e → parse s' = .ok e) ∧
    (∀ e, parse s = .error e → e.Incomplete →
      parse s' = .error ⟨e.reason, ⟨s'.utf8ByteSize, s'.utf8ByteSize⟩, e.slice⟩) ∧
    (∀ e, parse s = .error e → ¬ e.Incomplete → ∃ (p : Nat) (t u : Token),
      (scan 0 s.toList)[p]? = some t ∧ (scan 0 s'.toList)[p]? = some u ∧ e.span = t.span ∧
        parse s' = .error ⟨e.reason, u.span, e.slice⟩) := by
  intro s'
  have hwords : (scan 0 s'.toList).map word = (scan 0 s.toList).map word := by
    rw [String.toList_ofList]
    exact scan_respaced s.toList h
  refine ⟨hwords, ?_, ?_, ?_⟩
  · intro e he
    exact ofTokens_eq_ok_of_map_word hwords he
  · intro e he hend
    rw [← byteLength_toList]
    exact ofTokens_incomplete_of_map_word hwords he hend
  · intro e he hnot
    exact ofTokens_eq_error_of_map_word hwords he hnot

theorem parse_respaced_partial_dice :
    let ts : List Token := [⟨.integer, 0, ['2']⟩, ⟨.unknown, 1, ['d']⟩, ⟨.unknown, 2, ['X']⟩]
    let us := scan 0 "2 d\tX".toList
    Spacing ts [] [[' '], ['\t'], []] ∧ us.map word = ts.map word ∧
      parse "2dX" = .error ⟨.unexpectedString [.plus], ⟨1, 2⟩, ['d']⟩ ∧
      ∃ (p : Nat) (t u : Token), ts[p]? = some t ∧ us[p]? = some u ∧ ⟨1, 2⟩ = t.span ∧
        parse "2 d\tX" = .error ⟨.unexpectedString [.plus], u.span, ['d']⟩ := by
  intro ts us
  have hscan : scan 0 "2dX".toList = ts := by decide +kernel
  have hlayout : String.ofList (layout [] ts [[' '], ['\t'], []]) = "2 d\tX" := by decide +kernel
  have hparse : parse "2dX" = .error ⟨.unexpectedString [.plus], ⟨1, 2⟩, ['d']⟩ := by
    decide +kernel
  have hgaps : Spacing ts [] [[' '], ['\t'], []] := by
    refine ⟨rfl, blank_nil, by simp [Blank], ?_⟩
    intro i t u _ hu hgap
    have hi : i + 1 < 3 := (List.getElem?_eq_some_iff.mp hu).1
    obtain rfl | rfl : i = 0 ∨ i = 1 := by omega
    · simp at hgap
    · simp at hgap
  have hrespaced := parse_respaced "2dX" [] [[' '], ['\t'], []]
  rw [hscan] at hrespaced
  obtain ⟨hwords, -, -, hrejected⟩ := hrespaced hgaps
  rw [hlayout] at hwords hrejected
  refine ⟨hgaps, hwords, hparse, ?_⟩
  exact hrejected _ hparse (by simp [ParseError.Incomplete])

end Expression

end Chance
