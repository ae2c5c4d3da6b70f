import PluginAudit.Proofs.Reader.Reads

/-!
# The steps of readers

What the readers that the grammar is made of read: tokens, faults, nodes and lists.
-/

namespace PluginAudit.Script

open ReadState PluginAudit.Script.Tree

abbrev Passes (exposed : Bool) (r : Reader α) : Prop :=
  Reads exposed r fun _ => True

namespace Reads

variable {α β σ : Type} {x : Bool} {r : Reader α} {Q : α → Prop} {R : β → Prop}

theorem passes (h : Reads x r Q) : Passes x r :=
  h.mono fun _ _ => trivial

/-! ## Looking -/

theorem asks {f : ReadState → α} (hf : ∀ s b fs, f (s.relaxed b fs) = f s) :
    Passes x (do return f (← get)) :=
  of_quiet (fun _ => trivial) (fun _ => rfl) (fun _ => rfl) (fun _ => rfl) fun s b fs =>
    congrArg (fun a => EStateM.Result.ok a (s.relaxed b fs)) (hf s b fs)

theorem cur : Passes x Reader.cur :=
  asks fun _ _ _ => rfl

theorem curKind : Passes x Reader.curKind :=
  cur.seq fun _ => pure trivial

theorem start : Passes x Reader.start :=
  cur.seq fun _ => pure trivial

theorem lastStop : Passes x Reader.lastStop :=
  asks fun _ _ _ => rfl

theorem at_ (text : String) : Passes x (Reader.at_ text) :=
  cur.seq fun _ => pure trivial

theorem atEnd : Passes x Reader.atEnd :=
  curKind.seq fun _ => pure trivial

theorem get_bind_run (f : ReadState → Reader α) (s : ReadState) : (get >>= f) s = f s s :=
  rfl

/-- A look at the state that sees neither the permission nor the faults. -/
theorem look {f : ReadState → Reader α} (hf : ∀ s b fs, f (s.relaxed b fs) = f s)
    (h : ∀ s, Reads x (f s) Q) : Reads x (get >>= f) Q := by
  intro s hs b fs hb
  obtain ⟨more, hgives, hleads, heq⟩ := h s s hs b fs hb
  refine ⟨more, hgives, hleads, ?_⟩
  rw [get_bind_run, get_bind_run, ← heq]
  exact congrFun (hf s b fs) _

theorem context {f : Context → Reader α} (hf : ∀ c b, f (c.permitting b) = f c)
    (h : ∀ c, Reads x (f c) Q) : Reads x (Reader.context >>= f) Q :=
  look (f := fun s => f s.context) (fun s b _ => hf s.context b) fun s => h s.context

theorem passes_of_quiet (hcontext : ∀ s, (Ending.state (r s)).context = s.context)
    (hfaults : ∀ s, (Ending.state (r s)).faults = s.faults)
    (hdecorators : ∀ s, (Ending.state (r s)).decorators = s.decorators)
    (hblind : ∀ s b fs, r (s.relaxed b fs) = Ending.mapState (·.relaxed b fs) (r s)) :
    Passes x r := by
  refine of_quiet (fun s => ?_) hcontext hfaults hdecorators hblind
  cases r s <;> trivial

theorem peek : Passes x Reader.peek := by
  refine passes_of_quiet ?_ ?_ ?_ ?_
  · rintro ⟨c, sc, _ | ⟨a, as⟩, t, l, f, d, lo, n⟩ <;> rfl
  · rintro ⟨c, sc, _ | ⟨a, as⟩, t, l, f, d, lo, n⟩ <;> rfl
  · rintro ⟨c, sc, _ | ⟨a, as⟩, t, l, f, d, lo, n⟩ <;> rfl
  · rintro ⟨c, sc, _ | ⟨a, as⟩, t, l, f, d, lo, n⟩ b fs <;> rfl

theorem peekKind : Passes x Reader.peekKind :=
  peek.seq fun _ => pure trivial

theorem peekAt (text : String) : Passes x (Reader.peekAt text) :=
  peek.seq fun _ => pure trivial

theorem peekSecond : Passes x Reader.peekSecond := by
  refine peek.seq fun _ => passes_of_quiet ?_ ?_ ?_ ?_
  · rintro ⟨c, sc, _ | ⟨a, _ | ⟨a', as⟩⟩, t, l, f, d, lo, n⟩ <;> rfl
  · rintro ⟨c, sc, _ | ⟨a, _ | ⟨a', as⟩⟩, t, l, f, d, lo, n⟩ <;> rfl
  · rintro ⟨c, sc, _ | ⟨a, _ | ⟨a', as⟩⟩, t, l, f, d, lo, n⟩ <;> rfl
  · rintro ⟨c, sc, _ | ⟨a, _ | ⟨a', as⟩⟩, t, l, f, d, lo, n⟩ b fs <;> rfl

/-! ## Moving on -/

/-- A change that leaves context, faults and decorators as they are, and does not look at the
first two. -/
theorem modifies {f : ReadState → ReadState} (hcontext : ∀ s, (f s).context = s.context)
    (hfaults : ∀ s, (f s).faults = s.faults) (hdecorators : ∀ s, (f s).decorators = s.decorators)
    (hblind : ∀ s b fs, f (s.relaxed b fs) = (f s).relaxed b fs) :
    Passes x (modify f : Reader Unit) :=
  passes_of_quiet hcontext hfaults hdecorators fun s b fs =>
    congrArg (EStateM.Result.ok ()) (hblind s b fs)

theorem advanceName : Passes x Reader.advanceName := by
  refine modifies ?_ ?_ ?_ ?_
  · rintro ⟨c, sc, _ | ⟨a, as⟩, t, l, f, d, lo, n⟩ <;> rfl
  · rintro ⟨c, sc, _ | ⟨a, as⟩, t, l, f, d, lo, n⟩ <;> rfl
  · rintro ⟨c, sc, _ | ⟨a, as⟩, t, l, f, d, lo, n⟩ <;> rfl
  · rintro ⟨c, sc, _ | ⟨a, as⟩, t, l, f, d, lo, n⟩ b fs <;> rfl

theorem rescan (m : Token → Lexer.ScanM Token) : Passes x (Reader.rescan m) :=
  modifies (fun _ => rfl) (fun _ => rfl) (fun _ => rfl) fun _ _ _ => rfl

theorem setContext {change : Context → Context}
    (hblind : ∀ c b, change (c.permitting b) = (change c).permitting b) :
    Passes x (Reader.setContext change) := by
  intro s hs b fs hb
  have hkeep : (change s.context).allowReturn = s.context.allowReturn :=
    Context.allowReturn_of_blind hblind s.context
  refine ⟨[], trivial, Leads.refl hs hkeep rfl, ?_⟩
  exact congrArg (EStateM.Result.ok ()) (relaxed_of_blind hblind s b fs)

/-! ## Faults -/

theorem complain (f : Fault) (offset : Nat) : Passes x (Reader.complain f offset) := by
  intro s hs b fs _
  refine ⟨[⟨f, offset⟩], trivial, ⟨hs, rfl, [⟨f, offset⟩], rfl, List.Sublist.refl _, ?_⟩, rfl⟩
  exact fun _ => rfl

theorem complainUnlessPermitted_run (f : Fault) (offset : Nat) (k : Unit → Reader α)
    (s : ReadState) :
    (do
      let c ← Reader.context
      if !c.allowReturn then
        let u ← Reader.complain f offset
        k u
      else k ()) s =
    k () (bif s.context.allowReturn then s else { s with faults := ⟨f, offset⟩ :: s.faults }) := by
  change (if (!s.context.allowReturn) = true then _ else k ()) s = _
  cases s.context.allowReturn <;> rfl

/-- The one fault that the permission is about. -/
theorem complainUnlessPermitted {f : Fault} {offset : Nat} {k : Unit → Reader α}
    (hk : Reads true (k ()) Q) :
    Reads true (do
      let c ← Reader.context
      if !c.allowReturn then
        let u ← Reader.complain f offset
        k u
      else k ()) Q := by
  intro s hs b fs hb
  rw [complainUnlessPermitted_run, complainUnlessPermitted_run]
  cases hs' : s.context.allowReturn with
  | true =>
    have hb' : b = true := hb hs'
    subst hb'
    exact hk s hs true fs hb
  | false =>
    obtain ⟨more, hgives, hleads, heq⟩ :=
      hk { s with faults := ⟨f, offset⟩ :: s.faults } hs b
        (bif b then fs else ⟨f, offset⟩ :: fs) hb
    obtain ⟨new, hnew, hsub, hsame⟩ := hleads.faults
    have hsplit : more ++ (bif b then fs else ⟨f, offset⟩ :: fs) =
        (more ++ bif b then [] else [⟨f, offset⟩]) ++ fs := by
      cases b <;> simp
    refine ⟨more ++ bif b then [] else [⟨f, offset⟩], hgives,
      ⟨hleads.tidy, hleads.allowReturn, new ++ [⟨f, offset⟩], ?_, ?_, ?_⟩, ?_⟩
    · rw [List.append_assoc]
      exact hnew
    · refine hsub.append ?_
      cases b
      · exact List.Sublist.refl _
      · exact List.nil_sublist _
    · intro h
      have hb' : false = b := hs' ▸ h rfl
      subst hb'
      rw [hsame h]
      rfl
    · rw [← hsplit]
      refine Eq.trans ?_ heq
      cases b <;> rfl

theorem refuse (f : Fault) (offset : Nat) : Reads x (Reader.refuse f offset) Q :=
  throw _

theorem unexpected_run (s : ReadState) : (Reader.unexpected : Reader α) s =
    match s.token.kind, s.scan.faults with
    | .unknown, f :: fs => .error (.fault f) { s with scan := { s.scan with faults := fs } }
    | _, _ => .error (.fault ⟨.unexpectedToken, s.token.start⟩) s := by
  have hrun : (Reader.unexpected : Reader α) s =
      (match s.token.kind, s.scan.faults with
        | .unknown, f :: fs => do
          set { s with scan := { s.scan with faults := fs } }
          MonadExcept.throw (.fault f)
        | _, _ => Reader.refuse .unexpectedToken s.token.start : Reader α) s :=
    get_bind_run _ s
  rw [hrun]
  split
  · next hkind hfaults =>
    rw [hkind, hfaults]
    rfl
  · rfl

theorem unexpected : Reads x Reader.unexpected Q := by
  refine of_quiet ?_ ?_ ?_ ?_ ?_
  · intro s
    rw [unexpected_run]
    split <;> trivial
  · intro s
    rw [unexpected_run]
    split <;> rfl
  · intro s
    rw [unexpected_run]
    split <;> rfl
  · intro s
    rw [unexpected_run]
    split <;> rfl
  · intro s b fs
    rw [unexpected_run, unexpected_run]
    change (match s.token.kind, s.scan.faults with | .unknown, f :: fs => _ | _, _ => _) = _
    split <;> rfl

theorem advance : Passes x Reader.advance := by
  apply cur.seq
  intro t
  extract_lets move
  have hmove : Passes x (move ()) := advanceName
  clear_value move
  refine ite (fun _ => ?_) fun _ => hmove
  exact (complain _ _).seq fun _ => hmove

theorem eat (text : String) : Passes x (Reader.eat text) := by
  refine (at_ text).seq fun here => ite (fun _ => ?_) fun _ => pure trivial
  exact advance.seq fun _ => pure trivial

theorem require (text : String) : Passes x (Reader.require text) :=
  cur.seq fun _ => ite (fun _ => refuse _ _) fun _ => pure trivial

theorem expect (text : String) : Passes x (Reader.expect text) :=
  (require text).seq fun _ => advance

theorem canEndStatement : Passes x Reader.canEndStatement :=
  cur.seq fun _ => pure trivial

theorem semicolon : Passes x Reader.semicolon := by
  apply canEndStatement.seq
  intro ends
  extract_lets finish
  have hfinish : Passes x (finish ()) := (eat ";").seq fun _ => pure trivial
  clear_value finish
  refine ite (fun _ => ?_) fun _ => hfinish
  exact lastStop.seq fun _ => (refuse _ _).never

/-! ## Control -/

theorem andM {p q : Reader Bool} (hp : Passes x p) (hq : Passes x q) : Passes x (p <&&> q) :=
  hp.seq fun b => by cases b <;> first | exact hq | exact pure trivial

theorem orM {p q : Reader Bool} (hp : Passes x p) (hq : Passes x q) : Passes x (p <||> q) :=
  hp.seq fun b => by cases b <;> first | exact hq | exact pure trivial

theorem forIn_list {bs : List β} {f : β → PUnit → Reader (ForInStep PUnit)}
    (hf : ∀ b ∈ bs, Passes x (f b ⟨⟩)) : Passes x (forIn bs PUnit.unit f) := by
  induction bs with
  | nil => exact pure trivial
  | cons b bs ih =>
    rw [List.forIn_cons]
    apply (hf b (List.mem_cons_self ..)).seq
    intro step
    cases step with
    | done u => exact pure trivial
    | yield u => exact ih fun b' hb' => hf b' (List.mem_cons_of_mem _ hb')

theorem forIn_option {o : Option β} {f : β → PUnit → Reader (ForInStep PUnit)}
    (hf : ∀ b ∈ o, Passes x (f b ⟨⟩)) : Passes x (forIn o PUnit.unit f) := by
  cases o with
  | none => exact pure trivial
  | some b =>
    apply (hf b rfl).seq
    intro step
    cases step <;> exact pure trivial

/-! ## Nodes and lists -/

theorem node {k : Kind} {start : Nat} {ps : List Tree} {c : KindClass}
    (h : k.content.Fits ps) (hc : c k = true) : Reads x (Reader.node k start ps) (·.IsA c) :=
  lastStop.seq fun _ => pure (.node h hc)

theorem leaf {k : Kind} {c : KindClass} (h : k.content.Fits []) (hc : c k = true) :
    Reads x (Reader.leaf k) (·.IsA c) :=
  cur.seq fun _ => advance.seq fun _ => pure (.node h hc)

theorem doneReversed {items : List Tree} {c : KindClass} (h : AllAre items c) :
    Reads x (Pure.pure (.inr items.reverse)) (Sum.elim (AllAre · c) (AllAre · c)) :=
  done fun t ht => h t (List.mem_reverse.1 ht)

theorem againCons {items : List Tree} {t : Tree} {c : KindClass} (ht : t.IsA c)
    (h : AllAre items c) :
    Reads x (Pure.pure (.inl (t :: items))) (Sum.elim (AllAre · c) R) :=
  again (List.forall_mem_cons.2 ⟨ht, h⟩)

theorem list {close : String} {trailing : Bool} {element : Reader Tree} {c : KindClass}
    (h : Reads x element (·.IsA c)) :
    Reads x (Reader.list close trailing element) (AllAre · c) := by
  refine loop (AllAre · c) nofun fun items hitems => ?_
  refine (at_ close).seq fun closed => atEnd.seq fun ended =>
    ite (fun _ => doneReversed hitems) fun _ => ?_
  extract_lets more
  have hmore : Reads x (more ()) (Sum.elim (AllAre · c) (AllAre · c)) :=
    h.bind fun t ht => againCons ht hitems
  clear_value more
  refine ite (fun _ => ?_) fun _ => hmore
  apply ((pure trivial).andM ((at_ ",").andM (peekAt close))).seq
  intro last
  refine ite (fun _ => doneReversed hitems) fun _ => (expect ",").seq fun _ => ?_
  exact (at_ close).seq fun closed => ite (fun _ => doneReversed hitems) fun _ => hmore

end Reads

end PluginAudit.Script
