import Chance.Proofs.Notation.Lexing

namespace Chance

/-- The texts of the tokens: `[0-9]*d[0-9]+` for dice, `[0-9]+` for integers, and the plus sign. -/
inductive Pattern : TokenKind → List Char → Prop
  | dice {cs ss : List Char} (hcs : Digits cs) (hss : Digits ss) (hne : ss ≠ []) :
      Pattern .dice (cs ++ 'd' :: ss)
  | integer {ds : List Char} (hds : Digits ds) (hne : ds ≠ []) : Pattern .integer ds
  | plus : Pattern .plus ['+']

/-- The text starts with the token that has the longest match of a pattern. If no pattern matches
there and the first character is no blank, it starts with that character as an unknown token. -/
inductive Munched (text : List Char) : TokenKind → List Char → Prop
  | pattern {k : TokenKind} {l : List Char} (hmatch : Pattern k l) (hfront : l <+: text)
      (hlongest : ∀ j p, Pattern j p → p <+: text → p.length ≤ l.length) : Munched text k l
  | unknown {c : Char} (hfront : [c] <+: text) (hblank : ¬ Blank [c])
      (hnone : ∀ j p, Pattern j p → ¬ p <+: text) : Munched text .unknown [c]

structure Partition (start : Nat) (s : List Char) (ts : List Token) : Prop where
  nonempty : ∀ t ∈ ts, t.span.start < t.span.stop
  ordered : ts.Pairwise fun t u => t.span.stop ≤ u.span.start
  munched : ∀ t ∈ ts, ∃ before after, s = before ++ (t.lexeme ++ after) ∧
    t.span.start = start + byteLength before ∧ Munched (t.lexeme ++ after) t.kind t.lexeme
  blank : ∀ before c after, s = before ++ c :: after →
    (∀ t ∈ ts, start + byteLength before < t.span.start ∨
      t.span.stop ≤ start + byteLength before) → Blank [c]

theorem Digits.append {ds es : List Char} (hds : Digits ds) (hes : Digits es) :
    Digits (ds ++ es) := by
  intro c hc
  rcases List.mem_append.mp hc with hc | hc
  · exact hds c hc
  · exact hes c hc

theorem not_blank_singleton {c : Char} : ¬ Blank [c] ↔ c.isWhitespace = false := by
  simp [blank_cons, blank_nil]

theorem byteLength_pos {l : List Char} (h : l ≠ []) : 0 < byteLength l := by
  obtain ⟨c, s, rfl⟩ := List.exists_cons_of_ne_nil h
  exact Nat.add_pos_left c.utf8Size_pos _

theorem prefix_of_byteLength_le {p q s : List Char} (hp : p <+: s) (hq : q <+: s)
    (h : byteLength p ≤ byteLength q) : p <+: q := by
  rcases List.prefix_or_prefix_of_prefix hp hq with hle | ⟨r, rfl⟩
  · exact hle
  · have hnil : r = [] := by
      by_contra hne
      have hpos := byteLength_pos hne
      rw [byteLength_append] at h
      omega
    simp [hnil]

namespace Token

theorem Leads.unique {j k : TokenKind} {l m r q : List Char} (h : Leads k l r)
    (h' : Leads j m q) (heq : l ++ r = m ++ q) : k = j ∧ l = m := by
  obtain ⟨c, t, rfl⟩ := List.exists_cons_of_ne_nil h.ne_nil
  have hmunch := munch_of_leads h rfl
  rw [munch_of_leads h' heq] at hmunch
  exact Prod.mk.inj hmunch.symm

theorem exists_leads_of_pattern {j : TokenKind} {p : List Char} (h : Pattern j p)
    (s : List Char) : ∃ k l rest, Leads k l rest ∧ p ++ s = l ++ rest ∧ p.length ≤ l.length ∧
      k ≠ .unknown := by
  have hsplit := digits_append_dropWhile s
  have hdigits := digits_digits s
  have hrest := digits_dropWhile s
  generalize digits s = es at hsplit hdigits
  generalize s.dropWhile Char.isDigit = rest at hsplit hrest
  subst hsplit
  cases h with
  | @dice cs ss hcs hss hne =>
    have hl : Leads .dice (cs ++ 'd' :: (ss ++ es)) rest :=
      .dice hcs (hss.append hdigits) (by simp [hne]) hrest
    exact ⟨_, _, _, hl, by simp, by simp, nofun⟩
  | integer hds hne =>
    by_cases hsides : sidesPart rest = []
    · have hl : Leads .integer (p ++ es) rest :=
        .integer (hds.append hdigits) (by simp [hne]) hrest hsides
      exact ⟨_, _, _, hl, by simp, by simp, nofun⟩
    · obtain ⟨t, rfl, hss, -⟩ := eq_cons_of_sidesPart_ne_nil hsides
      have hl : Leads .dice ((p ++ es) ++ 'd' :: digits t) (t.dropWhile Char.isDigit) :=
        .dice (hds.append hdigits) (digits_digits t) hss (digits_dropWhile t)
      exact ⟨_, _, _, hl, by simp [digits_append_dropWhile], by simp, nofun⟩
  | plus => exact ⟨_, _, _, .plus, rfl, Nat.le_refl _, nofun⟩

theorem pattern_of_leads {k : TokenKind} {l rest : List Char} (h : Leads k l rest)
    (hk : k ≠ .unknown) : Pattern k l := by
  cases h with
  | dice hcs hss hne _ => exact .dice hcs hss hne
  | integer hds hne _ _ => exact .integer hds hne
  | plus => exact .plus
  | unknown => exact absurd rfl hk

def Patterned (t : Token) : Prop := t.kind ≠ .unknown → Pattern t.kind t.lexeme

theorem Patterned.integer {t : Token} (h : t.Patterned) (hk : t.kind = .integer) :
    Pattern .integer t.lexeme :=
  hk ▸ h (by simp [hk])

theorem Patterned.dice {t : Token} (h : t.Patterned) (hk : t.kind = .dice) :
    ∃ cs ss, t.lexeme = cs ++ 'd' :: ss ∧ Digits cs ∧ Digits ss ∧ ss ≠ [] := by
  have hpattern := h (by simp [hk])
  rw [hk] at hpattern
  generalize t.lexeme = l at hpattern
  cases hpattern with
  | dice hcs hss hne => exact ⟨_, _, rfl, hcs, hss, hne⟩

theorem Lexes.patterned {start : Nat} {s : List Char} {ts : List Token}
    (h : Lexes start s ts) : ∀ t ∈ ts, t.Patterned := by
  induction h with
  | done => simp
  | token _ hl _ ih => exact List.forall_mem_cons.mpr ⟨pattern_of_leads hl, ih⟩

theorem munched_of_leads {k : TokenKind} {l rest : List Char} (h : Leads k l rest) :
    Munched (l ++ rest) k l := by
  have hshort {j : TokenKind} {p : List Char} (hp : Pattern j p) (hfront : p <+: l ++ rest) :
      p.length ≤ l.length ∧ k ≠ .unknown := by
    obtain ⟨s, hs⟩ := hfront
    obtain ⟨k', l', rest', hl', heq, hlength, hk'⟩ := exists_leads_of_pattern hp s
    obtain ⟨rfl, rfl⟩ := h.unique hl' (hs.symm.trans heq)
    exact ⟨hlength, hk'⟩
  by_cases hk : k = .unknown
  · subst hk
    cases h with
    | unknown hblank hdigit hplus hsides =>
      refine .unknown (List.prefix_append _ _) (not_blank_singleton.mpr hblank) ?_
      intro j p hp hfront
      exact (hshort hp hfront).2 rfl
  · refine .pattern (pattern_of_leads h hk) (List.prefix_append _ _) ?_
    intro j p hp hfront
    exact (hshort hp hfront).1

theorem leads_of_munched {k : TokenKind} {l rest : List Char} (h : Munched (l ++ rest) k l) :
    Leads k l rest := by
  cases h with
  | pattern hmatch _ hlongest =>
    -- A digit or sides after the match would make a longer one.
    have hstop {j : TokenKind} {x : List Char} (hx : x <+: rest) (hp : Pattern j (l ++ x)) :
        x = [] := by
      have hle := hlongest j _ hp ((List.prefix_append_right_inj l).mpr hx)
      rw [List.length_append] at hle
      exact List.eq_nil_of_length_eq_zero (by omega)
    have hdigits : digits rest <+: rest := List.takeWhile_prefix _
    cases hmatch with
    | @dice cs ss hcs hss hne =>
      refine .dice hcs hss hne (hstop (j := .dice) hdigits ?_)
      rw [List.append_assoc, List.cons_append]
      exact .dice hcs (hss.append (digits_digits rest)) (by simp [hne])
    | integer hds hne =>
      refine .integer hds hne (hstop (j := .integer) hdigits ?_) ?_
      · exact .integer (hds.append (digits_digits rest)) (by simp [hne])
      · by_contra hsides
        obtain ⟨t, rfl, hss, -⟩ := eq_cons_of_sidesPart_ne_nil hsides
        have hfront : 'd' :: digits t <+: 'd' :: t :=
          (List.prefix_cons_inj _).mpr (List.takeWhile_prefix _)
        exact absurd (hstop hfront (.dice hds (digits_digits t) hss)) (by simp)
    | plus => exact .plus
  | @unknown c _ hblank hnone =>
    refine .unknown (not_blank_singleton.mp hblank) ?_ ?_ ?_
    · by_contra hdigit
      have hds : Digits [c] := by simpa [Digits] using hdigit
      exact hnone _ _ (.integer hds (by simp)) (List.prefix_append _ _)
    · rintro rfl
      exact hnone _ _ .plus (List.prefix_append _ _)
    · by_contra hsides
      obtain ⟨t, ht, hss, -⟩ := eq_cons_of_sidesPart_ne_nil hsides
      have hnil : Digits [] := fun c hc => absurd hc (by simp)
      refine hnone _ _ (.dice hnil (digits_digits t) hss) ?_
      rw [List.singleton_append, ht, List.nil_append]
      exact (List.prefix_cons_inj _).mpr (List.takeWhile_prefix _)

end Token

section

variable {start : Nat} {s before after : List Char} {t : Token} {ts : List Token}

theorem Partition.blank_before (h : Partition start s (t :: ts))
    (hs : s = before ++ (t.lexeme ++ after)) (ht : t.span.start = start + byteLength before) :
    Blank before := by
  intro c hc
  obtain ⟨b, d, rfl⟩ := List.append_of_mem hc
  have hout : ∀ u ∈ t :: ts, start + byteLength b < u.span.start := by
    have hfirst : start + byteLength b < t.span.start := by
      have hpos := c.utf8Size_pos
      rw [ht, byteLength_append, byteLength]
      omega
    intro u hu
    rcases List.mem_cons.mp hu with rfl | hu
    · exact hfirst
    · have hle := (List.pairwise_cons.mp h.ordered).1 u hu
      have hlt := h.nonempty t List.mem_cons_self
      omega
  have hblank := h.blank b c (d ++ (t.lexeme ++ after)) (by simp [hs]) fun u hu =>
    .inl (hout u hu)
  exact hblank c (List.mem_singleton_self c)

theorem Partition.tail (h : Partition start s (t :: ts))
    (hs : s = before ++ (t.lexeme ++ after)) (ht : t.span.start = start + byteLength before) :
    Partition t.span.stop after ts := by
  have hstop : t.span.stop = start + byteLength (before ++ t.lexeme) := by
    rw [byteLength_append, ← Nat.add_assoc, ← ht]
    rfl
  have hfront : before ++ t.lexeme <+: s := ⟨after, by rw [hs, List.append_assoc]⟩
  constructor
  · intro u hu
    exact h.nonempty u (List.mem_cons_of_mem t hu)
  · exact (List.pairwise_cons.mp h.ordered).2
  · intro u hu
    obtain ⟨b, d, hb, hstart, hmunched⟩ := h.munched u (List.mem_cons_of_mem t hu)
    have hle := (List.pairwise_cons.mp h.ordered).1 u hu
    obtain ⟨b, rfl⟩ := prefix_of_byteLength_le hfront ⟨_, hb.symm⟩ (by omega)
    refine ⟨b, d, ?_, ?_, hmunched⟩
    · rw [hs] at hb
      simpa only [List.append_assoc, List.append_cancel_left_eq] using hb
    · rw [hstart, hstop, byteLength_append _ b, Nat.add_assoc]
  · intro b c d hd hout
    apply h.blank (before ++ t.lexeme ++ b) c d
    · rw [hs, hd]
      simp only [List.append_assoc]
    · intro u hu
      rw [byteLength_append _ b, ← Nat.add_assoc, ← hstop]
      rcases List.mem_cons.mp hu with rfl | hu
      · exact .inr (Nat.le_add_right _ _)
      · exact hout u hu

theorem Partition.lexes (h : Partition start s ts) : Token.Lexes start s ts := by
  induction ts generalizing start s with
  | nil =>
    apply Token.Lexes.done
    intro c hc
    obtain ⟨b, d, hs⟩ := List.append_of_mem hc
    exact h.blank b c d hs (by simp) c (List.mem_singleton_self c)
  | cons t ts ih =>
    obtain ⟨before, after, hs, ht, hmunched⟩ := h.munched t List.mem_cons_self
    have hblank := h.blank_before hs ht
    have hrest := ih (h.tail hs ht)
    obtain ⟨k, start', l⟩ := t
    obtain rfl : start' = start + byteLength before := ht
    rw [hs]
    exact .token hblank (Token.leads_of_munched hmunched) hrest

theorem mem_or_exists_of_outside {w l rest b d : List Char} {c : Char}
    (hs : w ++ (l ++ rest) = b ++ c :: d)
    (hout : byteLength b < byteLength w ∨ byteLength (w ++ l) ≤ byteLength b) :
    c ∈ w ∨ ∃ v, b = w ++ (l ++ v) ∧ rest = v ++ c :: d := by
  rcases hout with hlt | hle
  · left
    obtain ⟨v, rfl⟩ : b <+: w :=
      prefix_of_byteLength_le ⟨_, hs.symm⟩ (List.prefix_append _ _) hlt.le
    cases v with
    | nil => simp at hlt
    | cons c' v =>
      simp only [List.append_assoc, List.append_cancel_left_eq, List.cons_append] at hs
      simp [(List.cons.inj hs).1]
  · right
    have hfront : w ++ l <+: w ++ (l ++ rest) := ⟨rest, List.append_assoc _ _ _⟩
    obtain ⟨v, rfl⟩ := prefix_of_byteLength_le hfront ⟨_, hs.symm⟩ hle
    simp only [List.append_assoc, List.append_cancel_left_eq] at hs
    exact ⟨v, List.append_assoc _ _ _, hs⟩

theorem Partition.cons {w l rest : List Char} {k : TokenKind} (hw : Blank w)
    (hl : Token.Leads k l rest) (h : Partition (start + byteLength w + byteLength l) rest ts) :
    Partition start (w ++ (l ++ rest)) (⟨k, start + byteLength w, l⟩ :: ts) := by
  constructor
  · rw [List.forall_mem_cons]
    exact ⟨Nat.lt_add_of_pos_right (byteLength_pos hl.ne_nil), h.nonempty⟩
  · apply List.pairwise_cons.mpr
    refine ⟨?_, h.ordered⟩
    intro u hu
    obtain ⟨b, d, -, hstart, -⟩ := h.munched u hu
    rw [hstart]
    exact Nat.le_add_right _ _
  · rw [List.forall_mem_cons]
    refine ⟨⟨w, rest, rfl, rfl, Token.munched_of_leads hl⟩, ?_⟩
    intro t ht
    obtain ⟨b, d, rfl, hstart, hmunched⟩ := h.munched t ht
    refine ⟨w ++ (l ++ b), d, by simp, ?_, hmunched⟩
    rw [hstart, byteLength_append, byteLength_append, Nat.add_assoc, Nat.add_assoc]
  · intro b c d hs hout
    have hfirst : start + byteLength b < start + byteLength w ∨
        start + byteLength w + byteLength l ≤ start + byteLength b :=
      hout _ List.mem_cons_self
    have hplace : byteLength b < byteLength w ∨ byteLength (w ++ l) ≤ byteLength b := by
      rw [byteLength_append]
      omega
    rcases mem_or_exists_of_outside hs hplace with hc | ⟨v, rfl, hrest⟩
    · intro x hx
      exact hw x (List.mem_singleton.mp hx ▸ hc)
    · apply h.blank v c d hrest
      intro t ht
      have hlater := hout t (List.mem_cons_of_mem _ ht)
      simpa only [byteLength_append, Nat.add_assoc] using hlater

theorem partition_of_lexes (h : Token.Lexes start s ts) : Partition start s ts := by
  induction h with
  | done hw =>
    refine ⟨by simp, .nil, by simp, ?_⟩
    rintro b c d rfl - x hx
    exact hw x (by simp [List.mem_singleton.mp hx])
  | token hw hl _ ih => exact ih.cons hw hl

end

def layout (w : List Char) (ts : List Token) (ws : List (List Char)) : List Char :=
  w ++ (List.zipWith (fun t v => t.lexeme ++ v) ts ws).flatten

theorem layout_nil (w : List Char) (ws : List (List Char)) : layout w [] ws = w :=
  List.append_nil w

theorem layout_cons (w : List Char) (t : Token) (ts : List Token) (v : List Char)
    (ws : List (List Char)) :
    layout w (t :: ts) (v :: ws) = w ++ (t.lexeme ++ layout v ts ws) := by
  simp [layout]

theorem Token.Lexes.exists_layout {start : Nat} {s : List Char} {ts : List Token}
    (h : Token.Lexes start s ts) :
    ∃ w ws, ws.length = ts.length ∧ Blank w ∧ (∀ v ∈ ws, Blank v) ∧ s = layout w ts ws := by
  induction h with
  | @done start w hw => exact ⟨w, [], rfl, hw, by simp, (layout_nil w []).symm⟩
  | @token start w l rest k ts hw _ _ ih =>
    obtain ⟨v, ws, hlength, hv, hws, rfl⟩ := ih
    refine ⟨w, v :: ws, by simp [hlength], hw, List.forall_mem_cons.mpr ⟨hv, hws⟩, ?_⟩
    rw [layout_cons]

theorem utf8ByteSize_ofList (l : List Char) : (String.ofList l).utf8ByteSize = byteLength l := by
  rw [← byteLength_toList, String.toList_ofList]

theorem exists_pos_of_toList_eq {s : String} {before l after : List Char}
    (h : s.toList = before ++ (l ++ after)) :
    ∃ p q : s.Pos, p.offset.byteIdx = byteLength before ∧
      q.offset.byteIdx = byteLength before + byteLength l ∧ s.extract p q = String.ofList l := by
  obtain rfl : s = String.ofList before ++ (String.ofList l ++ String.ofList after) := by
    rw [← String.ofList_append, ← String.ofList_append, ← h, String.ofList_toList]
  let p : (String.ofList before ++ (String.ofList l ++ String.ofList after)).Pos :=
    ⟨(String.ofList before).rawEndPos, String.Pos.Raw.isValid_iff_exists_append.mpr
      ⟨_, _, rfl, rfl⟩⟩
  let q : (String.ofList before ++ (String.ofList l ++ String.ofList after)).Pos :=
    ⟨(String.ofList before ++ String.ofList l).rawEndPos,
      String.Pos.Raw.isValid_iff_exists_append.mpr ⟨_, _, (String.append_assoc ..).symm, rfl⟩⟩
  have hp : p.offset.byteIdx = byteLength before := utf8ByteSize_ofList before
  have hq : q.offset.byteIdx = byteLength before + byteLength l := by
    rw [← utf8ByteSize_ofList, ← utf8ByteSize_ofList, ← String.utf8ByteSize_append]
    rfl
  refine ⟨p, q, hp, hq, ?_⟩
  apply String.toByteArray_inj.1
  have hbefore : byteLength before = (String.ofList before).toByteArray.size := by
    rw [String.size_toByteArray, utf8ByteSize_ofList]
  have hl : byteLength l = (String.ofList l).toByteArray.size := by
    rw [String.size_toByteArray, utf8ByteSize_ofList]
  rw [String.toByteArray_extract, hp, hq, String.toByteArray_append, String.toByteArray_append]
  exact (ByteArray.extract_append_size_add' (i := 0) hbefore).trans
    (ByteArray.extract_append_eq_left hl)

namespace Token

theorem partition_iff_eq_scan (s : String) :
    (∀ ts, Partition 0 s.toList ts ↔ ts = scan 0 s.toList) ∧
    (∀ t ∈ scan 0 s.toList, ∃ p q : s.Pos, p.offset.byteIdx = t.span.start ∧
      q.offset.byteIdx = t.span.stop ∧ s.extract p q = String.ofList t.lexeme) ∧
    ∃ w ws, ws.length = (scan 0 s.toList).length ∧ Blank w ∧ (∀ v ∈ ws, Blank v) ∧
      s.toList = layout w (scan 0 s.toList) ws := by
  have hlexes := lexes_scan 0 s.toList
  refine ⟨?_, ?_, hlexes.exists_layout⟩
  · intro ts
    constructor
    · intro h
      exact h.lexes.scan_eq.symm
    · rintro rfl
      exact partition_of_lexes hlexes
  · intro t ht
    obtain ⟨before, after, hs, hstart, -⟩ := (partition_of_lexes hlexes).munched t ht
    obtain ⟨p, q, hp, hq, hextract⟩ := exists_pos_of_toList_eq hs
    rw [Nat.zero_add] at hstart
    refine ⟨p, q, hp.trans hstart.symm, ?_, hextract⟩
    rw [hq, ← hstart]
    rfl

end Token

end Chance
