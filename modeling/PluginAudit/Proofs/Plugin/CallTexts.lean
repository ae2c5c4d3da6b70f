import PluginAudit.Proofs.Plugin.Opening

/-!
# Texts of call statements

Call statements are a script, and a body of the wrapper. If a sign that nothing begins with follows
them, they are neither.
-/

namespace PluginAudit.Plugin

open Script

variable {k : TokenKind} {b u text rest : List Char} {c : Char}

theorem standsBefore_body {t : ReadState} (h : CallsUpTo u text)
    (ht : StandsAt (.sign "\x7b") ('\n' :: (text ++ wrapperClosing)) t) (context : Context) :
    CallsUpTo (u ++ wrapperClosing) ('\n' :: (text ++ wrapperClosing)) ∧
      StandsBefore ('\n' :: (text ++ wrapperClosing)) { t.advance with context := context } :=
  ⟨(h.append wrapperClosing).cons rfl, StandsBefore.context ht.advance context⟩

/-! ## Call statements alone -/

theorem exists_read_calls (h : CallsUpTo [] text) : ∃ tree, read true text = .ok tree := by
  have hend : ∀ b, AllGap b → ∃ rest, Lexes (b ++ []) .endOfText rest := fun b hb =>
    ⟨[], by rw [List.append_nil]; exact lexes_end hb⟩
  have hs := standsBefore_ofText (Context.script true) text
  obtain ⟨n, hn⟩ := exists_depth text
  obtain ⟨b, hb, hgoes⟩ := h.goesTo (m := n + 11) hend hs rfl rfl
  rw [List.append_nil] at hgoes
  obtain ⟨k, rest, hk, hlexes⟩ := h.lexes hend
  refine exists_read_of_goesTo hb ?_
  rw [hn]
  refine Gives.program ?_ hgoes
  rw [(hs hlexes).1.token.kind]
  rcases hk with rfl | hk
  · nofun
  · exact hk.2.1

theorem exists_read_wrap_calls (h : CallsUpTo [] text) :
    ∃ tree, read false (wrap text) = .ok tree := by
  refine exists_read_wrap fun m t c ht hc => ?_
  obtain ⟨hcalls, hs⟩ := standsBefore_body h ht c
  have hclosing : ∀ b, AllGap b → ∃ rest, Lexes (b ++ wrapperClosing) (.sign "\x7d") rest :=
    fun b hb => ⟨_, lexes_closing hb⟩
  obtain ⟨b, hb, hgoes⟩ := hcalls.goesTo hclosing hs hc
    (rfl : endsStatements true (.sign "\x7d") = true)
  exact ⟨_, lexes_closing hb, hgoes⟩

/-! ## A sign behind them -/

/-- Signs that nothing in a script begins with begin with these characters. -/
def idleCharacters : List Char := [')', ']', ',', ':', '=', '*', '%', '&', '|', '?', '^', '>']

theorem beginsSign_of_idle (hc : c ∈ idleCharacters) : Lexer.beginsSign c = true ∧
    Lexer.isGap c = false ∧ c ≠ '/' ∧ c ≠ '<' ∧ c ≠ '-' := by
  fin_cases hc <;> decide

theorem singleton_mem_signs (hc : c ∈ idleCharacters) :
    String.singleton c ∈ Lexer.signs ∧ String.singleton c ≠ "?." := by
  fin_cases hc <;> decide

theorem exists_sign (hc : c ∈ idleCharacters) (u : List Char) : ∃ sign rest,
    Lexer.signAt? (c :: u) = some sign ∧ sign ∈ idleSigns ∧ c :: u = sign.toList ++ rest := by
  have hidle : ∀ sign ∈ Lexer.signs, sign.toList ≠ [] ∧
      (sign.toList.head?.any idleCharacters.contains = true → sign ∈ idleSigns) := by
    decide
  obtain ⟨hmem, hoptional⟩ := singleton_mem_signs hc
  have hsome : (Lexer.signAt? (c :: u)).isSome = true :=
    List.find?_isSome.2 ⟨String.singleton c, hmem, by simp [hoptional]⟩
  obtain ⟨sign, hsign⟩ := Option.isSome_iff_exists.1 hsome
  obtain ⟨hsigns, rest, hrest⟩ := Lexer.signAt?_eq_some hsign
  obtain ⟨hne, hhead⟩ := hidle sign hsigns
  have hfirst : sign.toList.head? = some c := by
    rw [← List.head?_append_of_ne_nil _ hne, hrest, List.head?_cons]
  refine ⟨sign, rest, hsign, hhead ?_, hrest.symm⟩
  rw [hfirst]
  exact List.contains_iff_mem.2 hc

theorem exists_lexes_idle (hc : c ∈ idleCharacters) (u : List Char) :
    ∃ k, Fails.BeginsNothing k ∧ endsStatements false k = false ∧ endsStatements true k = false ∧
      k ≠ .hashbang ∧ ∀ b, AllGap b → ∃ rest, Lexes (b ++ c :: u) k rest := by
  obtain ⟨sign, rest, hsign, hidle, hsplit⟩ := exists_sign hc u
  obtain ⟨hsigns, htoken⟩ := beginsSign_of_idle hc
  have hbrace : ∀ sign ∈ idleSigns, (sign == "\x7d") = false := by
    decide
  refine ⟨.sign sign, .inr ⟨sign, hidle, rfl⟩, rfl, hbrace sign hidle, nofun, fun b hb => ?_⟩
  exact ⟨rest, lexes_sign hb hsigns (Lexer.beginsToken_cons htoken) hsign hsplit⟩

/-- No script, whatever is permitted, goes on with such a sign behind call statements. -/
theorem not_read_idle (h : CallsUpTo (c :: u) text) (hc : c ∈ idleCharacters) (tree : Tree) :
    read true text ≠ .ok tree := by
  obtain ⟨k, hbegins, hends, _, hhashbang, hlexes⟩ := exists_lexes_idle hc u
  have hs := standsBefore_ofText (Context.script true) text
  obtain ⟨n, hn⟩ := exists_depth text
  obtain ⟨k', rest, hk', hfirst⟩ := h.lexes hlexes
  refine Fails.read ?_ tree
  rw [hn]
  refine Fails.program ?_ (h.fails (m := n + 11) hlexes hs rfl hends fun ht => ?_)
  · rw [(hs hfirst).1.token.kind]
    rcases hk' with rfl | hk'
    · exact hhashbang
    · exact hk'.2.1
  · refine Fails.statement_of_beginsNothing ?_
    rw [ht.token.kind]
    exact hbegins

theorem not_read_wrap_idle (h : CallsUpTo (c :: u) text) (hc : c ∈ idleCharacters) (tree : Tree) :
    read false (wrap text) ≠ .ok tree := by
  refine not_read_wrap (fun m t context ht hreturn => ?_) tree
  obtain ⟨hcalls, hs⟩ := standsBefore_body h ht context
  obtain ⟨k, hbegins, _, hends, _, hlexes⟩ := exists_lexes_idle hc (u ++ wrapperClosing)
  refine hcalls.fails hlexes hs hreturn hends fun ht => Fails.statement_of_beginsNothing ?_
  rw [ht.token.kind]
  exact hbegins

end PluginAudit.Plugin
