import PluginAudit.Proofs.Grammar.Calls

/-!
# Reading call statements

Texts of statements that call a name or a template, or return what such a call returns. They are
read to their end, without a fault.
-/

namespace PluginAudit.Script

open ReadState

/-! ## The texts -/

def AllGap (b : List Char) : Prop := ∀ d ∈ b, Lexer.isGap d = true

/-- A name that is no word of the language, or a template without substitutions. -/
inductive IsCallee : List Char → Prop
  | name {c : Char} {w : List Char} (hc : Text.isNameStart c = true)
      (hw : ∀ d ∈ c :: w, Text.isNamePart d = true)
      (hname : TokenKind.ofName (String.ofList (c :: w)) = .name) : IsCallee (c :: w)
  | template {w : List Char} (hw : Lexer.IsVerbatim w) : IsCallee ('`' :: (w ++ ['`']))

/-- A name or template, called once or more, without arguments. -/
def IsCall (e : List Char) : Prop := ∃ callee n, IsCallee callee ∧ e = callee ++ calls (n + 1)

inductive IsCallStatement : List Char → Prop
  | empty : IsCallStatement [';']
  | call {e : List Char} (he : IsCall e) : IsCallStatement (e ++ [';'])
  | returned {e : List Char} (he : IsCall e) :
      IsCallStatement ("return".toList ++ ' ' :: '(' :: (e ++ [')', ';']))

/-- Call statements with blanks between them, and then `u`. -/
inductive CallsUpTo (u : List Char) : List Char → Prop
  | done {b : List Char} (hb : AllGap b) : CallsUpTo u (b ++ u)
  | statement {b st text : List Char} (hb : AllGap b) (hst : IsCallStatement st)
      (h : CallsUpTo u text) : CallsUpTo u (b ++ (st ++ text))

variable {rules : Rules} {s : ReadState} {k : TokenKind} {b e st text u v rest : List Char}

theorem allGap_singleton {c : Char} (hc : Lexer.isGap c = true) : AllGap [c] :=
  List.forall_mem_singleton.2 hc

theorem CallsUpTo.append (h : CallsUpTo u text) (v : List Char) :
    CallsUpTo (u ++ v) (text ++ v) := by
  induction h with
  | done hb =>
    rw [List.append_assoc]
    exact .done hb
  | statement hb hst _ ih =>
    rw [List.append_assoc, List.append_assoc]
    exact .statement hb hst ih

theorem CallsUpTo.cons {c : Char} (h : CallsUpTo u text) (hc : Lexer.isGap c = true) :
    CallsUpTo u (c :: text) := by
  cases h with
  | done hb => exact .done (List.forall_mem_cons.2 ⟨hc, hb⟩)
  | statement hb hst h => exact .statement (List.forall_mem_cons.2 ⟨hc, hb⟩) hst h

/-! ## Calls -/

/-- What begins a call. -/
def BeginsCall (k : TokenKind) : Prop := k = .name ∨ k = .template .whole

theorem beginsPrimary_of_beginsCall (hk : BeginsCall k) : Fails.BeginsPrimary k := by
  rcases hk with rfl | rfl <;> exact ⟨rfl, rfl, rfl, rfl, rfl, nofun⟩

theorem endsName_cons {c : Char} (h : Text.isNamePart c = false ∧ c ≠ '\\') :
    Lexer.EndsName (c :: u) := by
  rintro d hd
  obtain rfl := Option.some.inj hd
  exact h

theorem ofName_ne {w : String} (h : TokenKind.ofName w = .name) : w ≠ "await" ∧ w ≠ "yield" := by
  constructor <;> rintro rfl <;> cases h

theorem IsCallee.lexes (h : IsCallee e) (hb : AllGap b) :
    ∃ k, BeginsCall k ∧ Lexes (b ++ (e ++ '(' :: u)) k ('(' :: u) := by
  cases h with
  | @name c w hc hw hname =>
    obtain ⟨hawait, hyield⟩ := ofName_ne hname
    have htoken : Lexer.BeginsToken (c :: w ++ '(' :: u) := by
      refine Lexer.beginsToken_cons ⟨Lexer.isGap_of_isNameStart hc, ?_, ?_, ?_⟩ <;> rintro rfl <;>
        exact absurd hc (by decide)
    have hlexes :=
      lexes_name hb hc htoken hw (endsName_cons (c := '(') (by decide)) hawait hyield
    rw [hname] at hlexes
    exact ⟨.name, .inl rfl, hlexes⟩
  | @template w hw =>
    refine ⟨.template .whole, .inr rfl, ?_⟩
    rw [List.cons_append, List.append_assoc, List.singleton_append]
    exact lexes_template hb hw

theorem not_is_of_beginsCall (hk : BeginsCall k) (sign : String) : k.is sign = false := by
  rcases hk with rfl | rfl <;> rfl

theorem lexes_return (hb : AllGap b) :
    Lexes (b ++ ("return".toList ++ ' ' :: u)) (.word "return") (' ' :: u) :=
  lexes_name (c := 'r') (w := "eturn".toList) hb (by decide) (Lexer.beginsToken_cons (by decide))
    (List.all_eq_true.1 (by decide)) (endsName_cons (by decide)) (by decide) (by decide)

theorem lexes_spaced_open : Lexes (' ' :: '(' :: u) (.sign "(") u :=
  lexes_single (allGap_singleton rfl) (by decide) (by decide) rfl rfl

/-- A space ends no line. -/
theorem StandsAt.not_afterNewline (h : StandsAt k (' ' :: '(' :: u) s) :
    s.advance.token.afterNewline = false := by
  obtain ⟨offset, limit, hlimit, hscan⟩ := h.scan
  obtain ⟨n, rfl⟩ := Nat.exists_eq_succ_of_ne_zero (Nat.ne_zero_of_lt hlimit)
  have hblanks : Lexer.blanks (n + 1) false ⟨' ' :: '(' :: u, offset, [], none, n + 1⟩ =
      (false, ⟨'(' :: u, offset + 1, [], none, n + 1⟩) := by
    rw [Lexer.blanks_cons (by decide)]
    exact Lexer.blanks_stop (Lexer.beginsToken_cons (by decide))
  have htoken := Lexer.token_sign (s := ⟨' ' :: '(' :: u, offset, [], none, n + 1⟩)
    (by decide) hblanks rfl rfl
  rw [advance_of_ahead_nil h.ahead, hscan, htoken]

namespace Gives

theorem callee (hk : BeginsCall k) (h : StandsAt k u s) : GoesTo u (Grammar.primary rules) s := by
  rcases hk with rfl | rfl
  · exact name h
  · exact template h

theorem call {m : Nat} (he : IsCall e) (hb : AllGap b) (h : StandsBefore (b ++ (e ++ u)) s)
    (hu : Lexes u k rest) (hk : EndsExpression k) :
    GoesTo u (Grammar.rules (m + 5) .assignment) s := by
  obtain ⟨f, n, hf, rfl⟩ := he
  obtain ⟨k', hk', hlexes⟩ := hf.lexes (u := ')' :: (calls n ++ u)) hb
  rw [List.append_assoc] at h
  have hs := (h hlexes).1
  have hguess : Grammar.guessArrow s = .ok .no s :=
    guessArrow_run ((hs.is "(").trans (not_is_of_beginsCall hk' _))
      ((hs.is "async").trans (not_is_of_beginsCall hk' _))
  exact assignment_of_primary (n := n + 1) hs.token.kind (beginsPrimary_of_beginsCall hk')
    hguess (callee hk' hs) hu hk

/-- A call in parentheses. -/
theorem parenthesizedCall {m : Nat} (he : IsCall e)
    (h : StandsAt (.sign "(") (e ++ ')' :: u) s) (hu : Lexes u k rest) (hk : EndsExpression k) :
    GoesTo u (Grammar.rules (m + 10) .assignment) s := by
  obtain ⟨k', w, hk', hlexes, hguess⟩ : ∃ k' w, BeginsCall k' ∧
      Lexes (e ++ ')' :: u) k' ('(' :: w) ∧ Grammar.guessArrow s = .ok .no s := by
    obtain ⟨f, n, hf, rfl⟩ := he
    obtain ⟨k', hk', hlexes⟩ := hf.lexes (b := []) (u := ')' :: (calls n ++ ')' :: u)) nofun
    rw [List.append_assoc] at h ⊢
    refine ⟨k', _, hk', hlexes, ?_⟩
    rcases hk' with rfl | rfl
    · exact guessArrow_run_call h hlexes
    · exact guessArrow_run_first h hlexes (.inr rfl)
  have hend : k' ≠ .endOfText := by
    rcases hk' with rfl | rfl <;> nofun
  have hprimary : GoesTo u (Grammar.primary (Grammar.rules (m + 5))) s :=
    parenthesized h hlexes (not_is_of_beginsCall hk' _) hend (List.cons_ne_nil _ _) fun c _ =>
      call he (b := []) nofun (StandsBefore.context h.advance c) lexes_close (.inl rfl)
  exact assignment_of_primary (n := 0) h.token.kind Fails.beginsPrimary_open hguess
    hprimary hu hk

/-! ## Statements -/

theorem semicolon (h : StandsAt (.sign ";") rest s) : GoesTo rest Reader.semicolon s := by
  refine after canEndStatement_run ?_
  rw [h.is_sign, Bool.true_or, Bool.true_or, Bool.true_or, if_neg (by decide)]
  refine step (eat_run h.is_sign h.token.plain) (by rw [context_advance]) ?_
  exact pure trivial h.advance

theorem labelledOrExpression (h : GoesTo (';' :: u) (Grammar.expression rules) s) :
    GoesTo u (Grammar.labelledOrExpression rules) s := by
  refine after start_run (bind h fun tree t _ ht _ => ?_)
  have hend := (ht lexes_semicolon).1
  have hcolon : t.token.is ":" = false := hend.is ":"
  refine after at_run ?_
  rw [hcolon, Bool.and_false, if_neg Bool.false_ne_true]
  exact bind (semicolon hend) fun _ t _ ht _ => node ht

theorem callStatement {m : Nat} {inBody : Bool} (he : IsCall e) (hb : AllGap b)
    (h : StandsBefore (b ++ (e ++ ';' :: u)) s) :
    GoesTo u (Grammar.statement (Grammar.rules (m + 5)) inBody) s := by
  have hcall : GoesTo (';' :: u) (Grammar.expression (Grammar.rules (m + 5))) s :=
    expression (k := .sign ";") rfl lexes_semicolon
      (call he hb (h.context _) lexes_semicolon (.inr rfl))
  have hstatement : Grammar.statement (Grammar.rules (m + 5)) inBody s =
      Grammar.labelledOrExpression (Grammar.rules (m + 5)) s := by
    obtain ⟨f, n, hf, rfl⟩ := he
    obtain ⟨k', hk', hlexes⟩ := hf.lexes (u := ')' :: (calls n ++ ';' :: u)) hb
    rw [List.append_assoc] at h
    rw [eq_withKind (h hlexes).1.token.kind]
    rcases hk' with rfl | rfl <;> rfl
  exact of_run hstatement (labelledOrExpression hcall)

theorem emptyStatement {inBody : Bool} (hb : AllGap b) (h : StandsBefore (b ++ ';' :: u) s) :
    GoesTo u (Grammar.statement rules inBody) s := by
  have hs := (h (lexes_single hb (by decide) (by decide) rfl rfl)).1
  have hstatement : Grammar.statement rules inBody s = Reader.leaf .emptyStatement s := by
    rw [eq_withKind hs.token.kind]
    rfl
  refine of_run hstatement (after cur_run ?_)
  exact bind (advance hs) fun _ t _ ht _ => pure trivial ht

theorem returnStatement {m : Nat} {inBody : Bool} (he : IsCall e) (hb : AllGap b)
    (h : StandsBefore (b ++ ("return".toList ++ ' ' :: '(' :: (e ++ ')' :: ';' :: u))) s)
    (hreturn : s.context.allowReturn = true) :
    GoesTo u (Grammar.statement (Grammar.rules (m + 10)) inBody) s := by
  have hs := (h (lexes_return hb)).1
  have hstatement : Grammar.statement (Grammar.rules (m + 10)) inBody s =
      Grammar.returnStatement (Grammar.rules (m + 10)) s := by
    rw [eq_withKind hs.token.kind]
    rfl
  have hopen : StandsAt (.sign "(") (e ++ ')' :: ';' :: u) s.advance :=
    (hs.advance lexes_spaced_open).1
  have hvalue : GoesTo (';' :: u) (Reader.withIn (Grammar.expression (Grammar.rules (m + 10))))
      s.advance :=
    within (expression (k := .sign ";") rfl lexes_semicolon
      (parenthesizedCall he (hopen.context _) lexes_semicolon (.inr rfl)))
  have hgoesOn : (s.advance.token.is ";" || s.advance.token.is "\x7d" ||
      s.advance.token.kind == .endOfText || s.advance.token.afterNewline) = false := by
    rw [hopen.is, hopen.is, hopen.token.kind, hs.not_afterNewline]
    rfl
  refine of_run hstatement (after start_run ?_)
  refine step (advance_run hs.token.plain) (by rw [context_advance]) ?_
  refine after canEndStatement_run ?_
  rw [hgoesOn, if_neg Bool.false_ne_true]
  refine bind hvalue fun tree t _ ht hcontext => ?_
  refine bind (semicolon (ht lexes_semicolon).1) fun _ v _ hv hcontext' => ?_
  have hpermitted : v.context.allowReturn = true := by
    rw [hcontext', hcontext, context_advance, hreturn]
  refine after pure_run (after context_run ?_)
  rw [hpermitted, if_neg (by decide)]
  exact node hv

/-- A call statement is read to its end. -/
theorem statement {m : Nat} {inBody : Bool} (hst : IsCallStatement st) (hb : AllGap b)
    (h : StandsBefore (b ++ (st ++ u)) s) (hreturn : s.context.allowReturn = true) :
    GoesTo u (Grammar.rules (m + 11) (.statement inBody)) s := by
  cases hst with
  | empty => exact emptyStatement hb h
  | @call e he =>
    rw [List.append_assoc] at h
    exact callStatement (m := m + 5) he hb h
  | @returned e he =>
    rw [List.append_assoc, List.cons_append, List.cons_append, List.append_assoc] at h
    exact returnStatement he hb h hreturn

end Gives

/-! ## Lists of statements -/

/-- What begins a statement of a list. -/
def BeginsStatement (k : TokenKind) : Prop :=
  k ≠ .endOfText ∧ k ≠ .hashbang ∧ k.is "\x7d" = false

theorem IsCallStatement.lexes (h : IsCallStatement st) (hb : AllGap b) :
    ∃ k rest, BeginsStatement k ∧ Lexes (b ++ (st ++ u)) k rest := by
  cases h with
  | empty =>
    exact ⟨.sign ";", _, ⟨nofun, nofun, rfl⟩,
      lexes_single hb (by decide) (by decide) rfl rfl⟩
  | @call e he =>
    obtain ⟨f, n, hf, rfl⟩ := he
    obtain ⟨k, hk, hlexes⟩ := hf.lexes (u := ')' :: (calls n ++ ';' :: u)) hb
    rw [List.append_assoc, List.append_assoc]
    refine ⟨k, _, ?_, hlexes⟩
    rcases hk with rfl | rfl <;> exact ⟨nofun, nofun, rfl⟩
  | returned he =>
    rw [List.append_assoc]
    exact ⟨.word "return", _, ⟨nofun, nofun, rfl⟩, lexes_return hb⟩

theorem IsCallStatement.ne_nil (h : IsCallStatement st) : st ≠ [] := by
  cases h <;> simp

theorem CallsUpTo.lexes (h : CallsUpTo u text)
    (hu : ∀ b, AllGap b → ∃ rest, Lexes (b ++ u) k rest) :
    ∃ k' rest, (k' = k ∨ BeginsStatement k') ∧ Lexes text k' rest := by
  cases h with
  | done hb =>
    obtain ⟨rest, hlexes⟩ := hu _ hb
    exact ⟨k, rest, .inl rfl, hlexes⟩
  | statement hb hst _ =>
    obtain ⟨k', rest, hbegins, hlexes⟩ := hst.lexes hb
    exact ⟨k', rest, .inr hbegins, hlexes⟩

/-- No statement follows in a list of statements. -/
def endsStatements (inBody : Bool) (k : TokenKind) : Bool :=
  k == .endOfText || (inBody && k.is "\x7d")

/-- What the loop of a list of statements does in one round. -/
structure IsRound (rules : Rules) (inBody : Bool)
    (step : Bool × List Tree → Reader ((Bool × List Tree) ⊕ List Tree)) : Prop where
  ends : ∀ acc s, endsStatements inBody s.token.kind = true →
    ∃ items, step acc s = .ok (.inr items) s
  goesOn : ∀ acc s text, endsStatements inBody s.token.kind = false →
    GoesTo text (rules (.statement false)) s →
    Gives (fun x => ∃ acc', x = .inl acc') text (step acc) s
  fails : ∀ acc s, endsStatements inBody s.token.kind = false →
    Fails (rules (.statement false)) s → Fails (step acc) s

theorem exists_round (rules : Rules) (inBody : Bool) :
    ∃ step, Grammar.statements rules inBody = Reader.loop (true, []) step ∧
      IsRound rules inBody step := by
  refine ⟨_, rfl, ?_, ?_, ?_⟩
  · rintro ⟨prologue, items⟩ s hend
    refine ⟨items.reverse, ?_⟩
    change (if endsStatements inBody s.token.kind = true then Pure.pure (Sum.inr items.reverse)
      else _ : Reader _) s = _
    rw [if_pos hend, pure_run]
  · rintro ⟨prologue, items⟩ s text hend h
    refine Gives.after atEnd_run (Gives.after at_run ?_)
    change Gives _ _ (if endsStatements inBody s.token.kind = true then _ else _ : Reader _) s
    rw [hend, if_neg Bool.false_ne_true]
    refine Gives.bind h fun tree t _ ht _ => ?_
    split
    · exact Gives.pure ⟨_, rfl⟩ ht
    · exact Gives.pure ⟨_, rfl⟩ ht
  · rintro ⟨prologue, items⟩ s hend h
    refine Fails.after atEnd_run (Fails.after at_run ?_)
    change Fails (if endsStatements inBody s.token.kind = true then _ else _ : Reader _) s
    rw [hend, if_neg Bool.false_ne_true]
    exact h.bind

/-- Rounds over the call statements lead to what is behind them. -/
theorem CallsUpTo.iterate {inBody : Bool} {m n : Nat} {acc : Bool × List Tree}
    {step : Bool × List Tree → Reader ((Bool × List Tree) ⊕ List Tree)}
    (hround : IsRound (Grammar.rules (m + 11)) inBody step) (h : CallsUpTo u text)
    (hs : StandsBefore text s) (hreturn : s.context.allowReturn = true) (hn : text.length < n) :
    ∃ b n' acc' t, AllGap b ∧ StandsBefore (b ++ u) t ∧ t.context.allowReturn = true ∧
      Reader.iterate step n acc s = Reader.iterate step (n' + 1) acc' t := by
  induction h generalizing n acc s with
  | @done b hb =>
    obtain ⟨n, rfl⟩ := Nat.exists_eq_succ_of_ne_zero (Nat.ne_zero_of_lt hn)
    exact ⟨b, n, acc, s, hb, hs, hreturn, rfl⟩
  | @statement b st text hb hst _ ih =>
    obtain ⟨n, rfl⟩ := Nat.exists_eq_succ_of_ne_zero (Nat.ne_zero_of_lt hn)
    obtain ⟨k', _, ⟨hend, _, hbrace⟩, hlexes⟩ := hst.lexes (u := text) hb
    have hgoesOn : endsStatements inBody s.token.kind = false := by
      rw [(hs hlexes).1.token.kind, endsStatements, hbrace, Bool.and_false, beq_false_of_ne hend]
      rfl
    obtain ⟨_, t, hrun, ⟨acc', rfl⟩, ht, hcontext⟩ :=
      hround.goesOn acc s text hgoesOn (Gives.statement hst hb hs hreturn)
    have hlength : text.length < n := by
      have hst' := List.length_pos_iff.2 hst.ne_nil
      rw [List.length_append, List.length_append] at hn
      omega
    obtain ⟨b', n', acc'', v, hb', hv, hreturn', heq⟩ := ih ht (hcontext.trans hreturn) hlength
    refine ⟨b', n', acc'', v, hb', hv, hreturn', ?_⟩
    rw [Reader.iterate, bind_apply, hrun]
    exact heq

section

variable {inBody : Bool} {m : Nat} (h : CallsUpTo u text)
  (hu : ∀ b, AllGap b → ∃ rest, Lexes (b ++ u) k rest) (hs : StandsBefore text s)
  (hreturn : s.context.allowReturn = true)
include h hu hs hreturn

/-- The statements end behind the call statements. -/
theorem CallsUpTo.goesTo (hk : endsStatements inBody k = true) : ∃ b, AllGap b ∧
    GoesTo (b ++ u) (Grammar.statements (Grammar.rules (m + 11)) inBody) s := by
  obtain ⟨step, heq, hround⟩ := exists_round (Grammar.rules (m + 11)) inBody
  obtain ⟨_, _, _, hlexes⟩ := h.lexes hu
  obtain ⟨b, n, acc, t, hb, ht, hreturn', hrun⟩ := h.iterate hround hs hreturn (hs hlexes).2
  obtain ⟨rest, hend⟩ := hu b hb
  obtain ⟨items, hitems⟩ := hround.ends acc t (by rw [(ht hend).1.token.kind, hk])
  refine ⟨b, hb, items, t, ?_, trivial, ht, hreturn'.trans hreturn.symm⟩
  rw [heq, Reader.loop, bind_apply, limit_run]
  refine hrun.trans ?_
  rw [Reader.iterate, bind_apply, hitems]
  rfl

/-- No statement can be read behind the call statements. -/
theorem CallsUpTo.fails (hk : endsStatements inBody k = false)
    (hfails : ∀ {rest t}, StandsAt k rest t →
      Fails (Grammar.rules (m + 11) (.statement false)) t) :
    Fails (Grammar.statements (Grammar.rules (m + 11)) inBody) s := by
  obtain ⟨step, heq, hround⟩ := exists_round (Grammar.rules (m + 11)) inBody
  obtain ⟨_, _, _, hlexes⟩ := h.lexes hu
  obtain ⟨b, n, acc, t, hb, ht, _, hrun⟩ := h.iterate hround hs hreturn (hs hlexes).2
  obtain ⟨rest, hend⟩ := hu b hb
  have hat := (ht hend).1
  obtain ⟨f, v, hstep⟩ : Fails (Reader.iterate step (n + 1) acc) t :=
    (hround.fails acc t (by rw [hat.token.kind, hk]) (hfails hat)).bind
  refine ⟨f, v, ?_⟩
  rw [heq, Reader.loop, bind_apply, limit_run]
  exact hrun.trans hstep

end

/-! ## Scripts -/

/-- A statement alone. -/
theorem Gives.statements {inBody : Bool} {k' : TokenKind} {w : List Char}
    (h : StandsAt k rest s) (hrest : rest ≠ []) (hk : endsStatements inBody k = false)
    (hstatement : GoesTo u (rules (.statement false)) s) (hu : Lexes u k' w)
    (hk' : endsStatements inBody k' = true) :
    GoesTo u (Grammar.statements rules inBody) s := by
  obtain ⟨step, heq, hround⟩ := exists_round rules inBody
  obtain ⟨n, hn⟩ := h.exists_limit hrest
  refine Gives.of_run (congrFun heq s) (Gives.after limit_run ?_)
  rw [hn]
  refine Gives.again (hround.goesOn _ _ _ (by rw [h.token.kind, hk]) hstatement)
    fun acc t ht hc => ?_
  obtain ⟨items, hitems⟩ := hround.ends acc t (by rw [(ht hu).1.token.kind, hk'])
  exact Gives.after hitems (Gives.pure trivial ht)

theorem Gives.program (hkind : s.token.kind ≠ .hashbang)
    (h : GoesTo u (Grammar.statements rules false) s) : GoesTo u (Grammar.program rules) s := by
  refine Gives.after cur_run ?_
  rw [beq_false_of_ne hkind, if_neg Bool.false_ne_true]
  exact Gives.after pure_run (Gives.bind h fun items t _ ht _ => Gives.node ht)

theorem exists_read_of_goesTo {allowReturn : Bool} (hb : AllGap b)
    (h : GoesTo b (Grammar.program (Grammar.rules (Grammar.depth text)))
      (ReadState.ofText (Context.script allowReturn) text)) :
    ∃ tree, read allowReturn text = .ok tree := by
  obtain ⟨tree, t, hrun, _, ht, _⟩ := h
  have hend := (ht (lexes_end hb)).1
  obtain ⟨offset, limit, _, hscan⟩ := hend.scan
  have hreported : t.reported [] = [] := by
    rw [ReadState.reported, ReadState.allFaults, hscan, hend.faults, hend.loose]
    rfl
  refine ⟨tree, ?_⟩
  simp [read, hrun, hreported]

end PluginAudit.Script
