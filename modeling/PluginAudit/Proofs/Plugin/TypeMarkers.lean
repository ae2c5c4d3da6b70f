import PluginAudit.Proofs.Plugin.Header

/-!
# Type markers

The search for `type: token` goes on behind the token of a marker that it finds. Where that token
is itself the word `type` of another marker, the other one is passed over. So of markers that run
into each other the first counts, the second does not, the third does again, and so on; all
markers count if none runs into another.
-/

namespace PluginAudit.Plugin

open Text

theorem not_isBlank_of_isTypeCharacter {c : Char} (h : isTypeCharacter c = true) :
    isBlank c = false := by
  simp only [isTypeCharacter, Bool.or_eq_true, beq_iff_eq] at h
  rcases h with (h | rfl) | rfl
  · exact not_isBlank_of_isAlphanum h
  · rfl
  · rfl

/-- One of the characters before and behind is part of a word and the other is not. -/
def IsWordEdge (l r : List Char) : Prop := l.getLast?.any isWord ≠ r.head?.any isWord

instance (l r : List Char) : Decidable (IsWordEdge l r) := inferInstanceAs (Decidable (_ ≠ _))

/-- `type`, blanks, a colon, blanks and all of a token, from `p` to `e`. -/
structure IsTypeMarker (text : List Char) (p e : Nat) (token : List Char) : Prop where
  edge : IsWordEdge (text.take p) (text.drop p)
  spelled : ∃ b c, AllBlank b ∧ AllBlank c ∧
    text.drop p = "type".toList ++ b ++ ':' :: c ++ token ++ text.drop e
  stop_le : e ≤ text.length
  token_ne : token ≠ []
  characters : ∀ c ∈ token, isTypeCharacter c = true
  whole : (text.drop e).head?.any isTypeCharacter = false

variable {text token rest : List Char} {p q e f k : Nat}

/-! ## What the matcher takes for a marker -/

theorem typeMarker_of_word {before : Option Char} (h : before.any isWord = true) :
    typeMarker before text = none := by
  have hword : (before.map isWord).getD false = true := by
    cases before with
    | none => cases h
    | some c => exact h
  rw [typeMarker, hword]
  rfl

theorem typeMarker_of_no_word {before : Option Char} (h : before.any isWord = false) :
    typeMarker before text = (labelled? "type" text).bind fun rest =>
      if rest.takeWhile isTypeCharacter = [] then none
      else some (rest.takeWhile isTypeCharacter, rest.dropWhile isTypeCharacter) := by
  have hword : (before.map isWord).getD false = false := by
    cases before with
    | none => rfl
    | some c => exact h
  simp only [typeMarker, hword, Bool.false_eq_true, if_false, Option.bind_eq_bind, Option.pure_def,
    List.isEmpty_iff, Option.bind_none]

theorem typeMarker_eq_some {before : Option Char} :
    typeMarker before text = some (token, rest) ↔
      before.any isWord = false ∧ token ≠ [] ∧ (∀ c ∈ token, isTypeCharacter c = true) ∧
      rest.head?.any isTypeCharacter = false ∧ ∃ b c, AllBlank b ∧ AllBlank c ∧
        text = "type".toList ++ b ++ ':' :: c ++ token ++ rest := by
  cases hword : before.any isWord with
  | true => simp [typeMarker_of_word hword]
  | false =>
    rw [typeMarker_of_no_word hword, Option.bind_eq_some_iff]
    constructor
    · rintro ⟨tail, htail, h⟩
      obtain ⟨b, c, hb, hc, -, rfl⟩ := labelled?_eq_some.1 htail
      split at h
      · cases h
      · next hne =>
        obtain ⟨rfl, rfl⟩ := Prod.mk.inj (Option.some.inj h)
        obtain ⟨hcharacters, hwhole, hsplit⟩ := takeWhile_dropWhile_iff.1 ⟨rfl, rfl⟩
        refine ⟨rfl, hne, hcharacters, hwhole, b, c, hb, hc, ?_⟩
        rw [List.append_assoc _ (tail.takeWhile _), ← hsplit]
    · rintro ⟨-, hne, hcharacters, hwhole, b, c, hb, hc, rfl⟩
      obtain ⟨htake, hdrop⟩ := takeWhile_dropWhile_iff.2 ⟨hcharacters, hwhole, rfl⟩
      refine ⟨token ++ rest, labelled?_eq_some.2 ⟨b, c, hb, hc, ?_, by simp⟩, ?_⟩
      · obtain ⟨d, ds, rfl⟩ := List.exists_cons_of_ne_nil hne
        exact not_isBlank_of_isTypeCharacter (hcharacters d (List.mem_cons_self ..))
      · rw [htake, hdrop, if_neg hne]

theorem typeMarker_consumes : Matcher.Consumes typeMarker := by
  intro before text token rest h
  obtain ⟨-, -, -, -, b, c, -, -, rfl⟩ := typeMarker_eq_some.1 h
  constructor
  · exact List.suffix_append _ rest
  · simp only [List.length_append, List.length_cons]
    omega

theorem isWordEdge_type {l r : List Char} :
    IsWordEdge l ("type".toList ++ r) ↔ l.getLast?.any isWord = false := by
  have htype : ("type".toList ++ r).head?.any isWord = true := rfl
  rw [IsWordEdge, htype, ne_eq, Bool.not_eq_true]

theorem isTypeMarker_of_matchAt (h : matchAt typeMarker text p = some (token, rest)) :
    IsTypeMarker text p (text.length - rest.length) token := by
  obtain ⟨-, hrest⟩ := typeMarker_consumes.rest_eq h
  obtain ⟨hedge, hne, hcharacters, hwhole, b, c, hb, hc, hspelled⟩ := typeMarker_eq_some.1 h
  refine ⟨?_, ⟨b, c, hb, hc, ?_⟩, Nat.sub_le .., hne, hcharacters, ?_⟩
  · rw [hspelled]
    simp only [List.append_assoc]
    exact isWordEdge_type.2 hedge
  · rw [← hrest]
    exact hspelled
  · rw [← hrest]
    exact hwhole

theorem IsTypeMarker.matchAt (h : IsTypeMarker text p e token) :
    matchAt typeMarker text p = some (token, text.drop e) := by
  obtain ⟨b, c, hb, hc, hspelled⟩ := h.spelled
  have hedge : (text.take p).getLast?.any isWord = false := by
    have hedge := h.edge
    rw [hspelled] at hedge
    simp only [List.append_assoc] at hedge
    exact isWordEdge_type.1 hedge
  exact typeMarker_eq_some.2 ⟨hedge, h.token_ne, h.characters, h.whole, b, c, hb, hc, hspelled⟩

theorem IsTypeMarker.sub_length (h : IsTypeMarker text p e token) :
    text.length - (text.drop e).length = e := by
  have hle : e ≤ text.length := h.stop_le
  rw [List.length_drop]
  omega

theorem mem_types_iff : token ∈ matchesIn typeMarker text ↔
    ∃ p e, IsVisited typeMarker text p ∧ IsTypeMarker text p e token := by
  rw [typeMarker_consumes.mem_matchesIn]
  constructor
  · rintro ⟨p, rest, hp, hmatch⟩
    exact ⟨p, _, hp, isTypeMarker_of_matchAt hmatch⟩
  · rintro ⟨p, e, hp, hmarker⟩
    exact ⟨p, _, hp, hmarker.matchAt⟩

theorem isVisited_iff_markers : IsVisited typeMarker text p ↔
    ∀ q e t, IsVisited typeMarker text q → IsTypeMarker text q e t → q < p → e ≤ p := by
  rw [typeMarker_consumes.isVisited_iff]
  constructor
  · intro h q e t hq hmarker hlt
    rw [← hmarker.sub_length]
    exact h q t _ hq hmarker.matchAt hlt
  · intro h q t rest hq hmatch hlt
    exact h q _ t hq (isTypeMarker_of_matchAt hmatch) hlt

/-! ## Markers that run into each other -/

theorem length_le_of_drop_eq {c : Char} {w l r : List Char} {i : Nat} (hw : c ∉ w)
    (h : (w ++ l).drop i = c :: r) : w.length ≤ i := by
  by_contra hlt
  have hi : i < w.length := Nat.not_le.1 hlt
  have hget : (w ++ l)[i]? = some c := by
    rw [← List.head?_drop, h]
    rfl
  rw [List.getElem?_append_left hi] at hget
  exact hw (List.mem_of_getElem? hget)

theorem dropWhile_type {b r : List Char} (hb : AllBlank b) :
    ("type".toList ++ b ++ ':' :: r).dropWhile isTypeCharacter = b ++ ':' :: r := by
  have hhead : (b ++ ':' :: r).head?.any isTypeCharacter = false := by
    cases b with
    | nil => rfl
    | cons c cs =>
      have hc : isBlank c = true := hb c (List.mem_cons_self ..)
      refine Bool.eq_false_iff.2 fun htype => ?_
      rw [not_isBlank_of_isTypeCharacter htype] at hc
      cases hc
  have hword : ∀ c ∈ "type".toList, isTypeCharacter c = true := List.all_eq_true.1 (by decide)
  exact (takeWhile_dropWhile_iff.2 ⟨hword, hhead, List.append_assoc ..⟩).2

/-- No `t` stands between the beginning of a marker and its token. -/
theorem not_mem_before_token {b c : List Char} (hb : AllBlank b) (hc : AllBlank c) :
    't' ∉ "ype".toList ++ b ++ ':' :: c := by
  have hblank : ∀ l, AllBlank l → 't' ∉ l := fun l hl hmem => absurd (hl 't' hmem) (by decide)
  simp [hblank b hb, hblank c hc]

/-- What begins with a `t` in a marker, behind its first one, is within the token. -/
theorem IsTypeMarker.drop_eq {r : List Char} (h : IsTypeMarker text p e token)
    (hq : text.drop q = 't' :: r) (hpq : p < q) (hqe : q < e) :
    ∃ s, (∀ c ∈ s, isTypeCharacter c = true) ∧ text.drop q = s ++ text.drop e := by
  obtain ⟨b, c, hb, hc, hspelled⟩ := h.spelled
  have hmarker : text.drop p =
      't' :: ("ype".toList ++ b ++ ':' :: c) ++ (token ++ text.drop e) := by
    rw [hspelled]
    simp
  generalize hv : "ype".toList ++ b ++ ':' :: c = v at hmarker
  have hbefore : 't' ∉ v := hv ▸ not_mem_before_token hb hc
  have hlength : text.length - p = v.length + (token.length + (text.length - e)) + 1 := by
    simpa using congrArg List.length hmarker
  have hstop : e ≤ text.length := h.stop_le
  have hdrop : text.drop q = (v ++ (token ++ text.drop e)).drop (q - p - 1) := by
    have hstep : q = p + (q - p - 1 + 1) := by omega
    rw [hstep, ← List.drop_drop, hmarker, ← hstep]
    rfl
  have hreach : v.length ≤ q - p - 1 := length_le_of_drop_eq hbefore (hdrop.symm.trans hq)
  refine ⟨token.drop (q - p - 1 - v.length), fun c hc => ?_, ?_⟩
  · exact h.characters c (List.mem_of_mem_drop hc)
  · rw [hdrop, List.drop_append, List.drop_eq_nil_of_le hreach, List.nil_append,
      List.drop_append_of_le_length (by omega)]

/-- A marker that runs into another one ends with the word `type` of the other. -/
theorem IsTypeMarker.stop_eq {t u : List Char} (h : IsTypeMarker text p e t)
    (h' : IsTypeMarker text q f u) (hpq : p < q) (hqe : q < e) : e = q + 4 := by
  obtain ⟨b, c, hb, -, hspelled⟩ := h'.spelled
  have hword : text.drop q = "type".toList ++ b ++ ':' :: (c ++ u ++ text.drop f) := by
    rw [hspelled]
    simp
  obtain ⟨s, hs, hcut⟩ := h.drop_eq hword hpq hqe
  have hrest : (text.drop q).dropWhile isTypeCharacter = text.drop e :=
    (takeWhile_dropWhile_iff.2 ⟨hs, h.whole, hcut⟩).2
  rw [hword, dropWhile_type hb] at hrest
  have hstop : e ≤ text.length := h.stop_le
  have hlength : text.length - q = 4 + (text.length - e) := by
    rw [← List.length_drop, ← List.length_drop, ← hrest, hword]
    simp
    omega
  omega

theorem IsTypeMarker.unique_before {t t' u : List Char} {p' e' : Nat}
    (h : IsTypeMarker text p e t) (h' : IsTypeMarker text p' e' t') (hq : IsTypeMarker text q f u)
    (hpq : p < q) (hqe : q < e) (hpq' : p' < q) (hqe' : q < e') : p = p' := by
  have he : e = q + 4 := h.stop_eq hq hpq hqe
  have he' : e' = q + 4 := h'.stop_eq hq hpq' hqe'
  rcases Nat.lt_trichotomy p p' with hlt | heq | hlt
  · have hstop : e = p' + 4 := h.stop_eq h' hlt (by omega)
    omega
  · exact heq
  · have hstop : e' = p + 4 := h'.stop_eq h hlt (by omega)
    omega

/-- So many markers in a row run each into the next and the last into what is at a place. -/
inductive RunInto (text : List Char) : Nat → Nat → Prop where
  | none {p : Nat} (h : ∀ q e t, IsTypeMarker text q e t → q < p → e ≤ p) : RunInto text 0 p
  | more {k p q e : Nat} {t : List Char} (before : RunInto text k q)
      (marker : IsTypeMarker text q e t) (hqp : q < p) (hpe : p < e) : RunInto text (k + 1) p

theorem exists_runInto (text : List Char) (p : Nat) : ∃ k, RunInto text k p := by
  induction p using Nat.strong_induction_on with
  | h p ih =>
    by_cases h : ∀ q e t, IsTypeMarker text q e t → q < p → e ≤ p
    · exact ⟨0, .none h⟩
    · push Not at h
      obtain ⟨q, e, t, hmarker, hqp, hpe⟩ := h
      obtain ⟨k, hk⟩ := ih q hqp
      exact ⟨k + 1, .more hk hmarker hqp hpe⟩

theorem RunInto.isVisited_iff (h : RunInto text k p) {t : List Char}
    (hp : IsTypeMarker text p e t) : IsVisited typeMarker text p ↔ k % 2 = 0 := by
  induction h generalizing e t with
  | none h =>
    have hvisited : IsVisited typeMarker text _ :=
      isVisited_iff_markers.2 fun q e t _ hmarker hlt => h q e t hmarker hlt
    exact iff_of_true hvisited rfl
  | @more k p q f u before hq hqp hpf ih =>
    have hbefore : IsVisited typeMarker text q ↔ k % 2 = 0 := ih hq
    constructor
    · intro hvisited
      have hnot : ¬ IsVisited typeMarker text q := fun hvisited' =>
        absurd (isVisited_iff_markers.1 hvisited q f u hvisited' hq hqp) (Nat.not_le.2 hpf)
      rw [hbefore] at hnot
      omega
    · intro hk
      have hnot : ¬ IsVisited typeMarker text q := by
        rw [hbefore]
        omega
      refine isVisited_iff_markers.2 fun q' f' u' hvisited' hq' hqp' => Nat.not_lt.1 fun hpf' => ?_
      have hsame : q = q' := hq.unique_before hq' hp hqp hpf hqp' hpf'
      rw [hsame] at hnot
      exact hnot hvisited'

/-! ## Categories -/

/-- A marker of a type that no marker runs into, or an even number of them in a row. -/
def Declares (text : List Char) (type : String) : Prop :=
  ∃ k p e, RunInto text k p ∧ k % 2 = 0 ∧ IsTypeMarker text p e type.toList

def Mentions (text : List Char) (type : String) : Prop :=
  ∃ p e, IsTypeMarker text p e type.toList

theorem mem_types_iff_declares {type : String} :
    type ∈ (matchesIn typeMarker text).map String.ofList ↔ Declares text type := by
  rw [List.mem_map]
  constructor
  · rintro ⟨token, htoken, rfl⟩
    obtain ⟨p, e, hp, hmarker⟩ := mem_types_iff.1 htoken
    obtain ⟨k, hk⟩ := exists_runInto text p
    refine ⟨k, p, e, hk, (hk.isVisited_iff hmarker).1 hp, ?_⟩
    rw [String.toList_ofList]
    exact hmarker
  · rintro ⟨k, p, e, hk, heven, hmarker⟩
    refine ⟨type.toList, mem_types_iff.2 ⟨p, e, (hk.isVisited_iff hmarker).2 heven, hmarker⟩, ?_⟩
    exact String.ofList_toList

theorem declares_iff_mentions (h : ∀ p e t q f u, IsTypeMarker text p e t →
    IsTypeMarker text q f u → p < q → e ≤ q) {type : String} :
    Declares text type ↔ Mentions text type := by
  constructor
  · rintro ⟨k, p, e, -, -, hmarker⟩
    exact ⟨p, e, hmarker⟩
  · rintro ⟨p, e, hmarker⟩
    exact ⟨0, p, e, .none fun q f u hq hlt => h q f u p e _ hq hmarker hlt, rfl, hmarker⟩

theorem category_classifyTypes (types : List String) :
    ((classifyTypes types).1 = .domExecuting ↔ domType ∈ types) ∧
    ((classifyTypes types).1 = .apiCalling ↔ domType ∉ types ∧ apiType ∈ types) ∧
    ((classifyTypes types).1 = .unclassified ↔ domType ∉ types ∧ apiType ∉ types) := by
  by_cases hdom : domType ∈ types
  · simp [classifyTypes, hdom]
  · by_cases hapi : apiType ∈ types
    · simp [classifyTypes, hdom, hapi]
    · simp [classifyTypes, hdom, hapi]

/-- The category follows the markers that count: those that an even number of markers in a row
run into. Where no marker runs into another all of them count. -/
theorem category_iff_declares (text : List Char) :
    let block := headerBlock text
    ((classify text).category = .domExecuting ↔ Declares block domType) ∧
    ((classify text).category = .apiCalling ↔ ¬ Declares block domType ∧ Declares block apiType) ∧
    ((classify text).category = .unclassified ↔
      ¬ Declares block domType ∧ ¬ Declares block apiType) ∧
    ((∀ p e t q f u, IsTypeMarker block p e t → IsTypeMarker block q f u → p < q → e ≤ q) →
      ∀ type, Declares block type ↔ Mentions block type) := by
  intro block
  have hcategory : (classify text).category =
      (classifyTypes ((matchesIn typeMarker block).map String.ofList)).1 := rfl
  obtain ⟨hdom, hapi, hnone⟩ :=
    category_classifyTypes ((matchesIn typeMarker block).map String.ofList)
  rw [mem_types_iff_declares] at hdom
  rw [mem_types_iff_declares, mem_types_iff_declares] at hapi hnone
  rw [hcategory]
  exact ⟨hdom, hapi, hnone, fun h _ => declares_iff_mentions h⟩

/-- Prose that ends with `type:` is a marker whose token is the word of the next one. -/
theorem passed_over_marker :
    let text := "/* sets the content-type:\n   type: vdi_plugin */".toList
    (classify text).category = .unclassified ∧ Mentions (headerBlock text) domType := by
  intro text
  refine ⟨by decide +kernel, 29, 45, ?_⟩
  constructor
  · decide +kernel
  · exact ⟨[], [' '], by decide, by decide, by decide +kernel⟩
  · decide +kernel
  · decide +kernel
  · exact List.all_eq_true.1 (by decide +kernel)
  · decide +kernel

end PluginAudit.Plugin
