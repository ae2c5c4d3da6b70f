import PluginAudit.Proofs.Grammar.Functions
import PluginAudit.Script.Grammar.Types

/-!
# Reading modifiers and types

Modifiers leave nothing in the tree. Types leave their literals, and the keys and parameters that
stand in them.
-/

namespace PluginAudit.Script

open Kind PluginAudit.Script.Tree

/-- The state that has only the first `<` of the sign it is at. -/
def ReadState.splitAngle (s : ReadState) : ReadState :=
  { s with
    token := { s.token with kind := .sign "<", stop := s.token.start + 1, raw := s.token.raw.take 1 }
    scan := { s.scan with
      rest := s.token.raw.drop 1 ++ s.scan.rest, offset := s.token.start + 1 }
    ahead := [] }

namespace Reads

variable {x : Bool} {rules : Rules}

/-! ## Modifiers -/

theorem passDefault : Passes x Grammar.passDefault := by
  refine advance.seq fun _ => cur.seq fun t => ite (fun _ => pure trivial) fun _ => ?_
  exact ite (fun _ => pure trivial) fun _ => peek.seq fun _ => pure trivial

theorem passExport : Passes x Grammar.passExport := by
  refine advance.seq fun _ => (at_ _).seq fun _ => ite (fun _ => ahead passDefault) fun _ => ?_
  refine (at_ _).seq fun _ => ite (fun _ => ?_) fun _ => curKind.seq fun _ => pure trivial
  exact ahead (advance.seq fun _ => curKind.seq fun _ => pure trivial)

theorem passModifier (constAllowed : Bool) : Passes x (Grammar.passModifier constAllowed) := by
  refine cur.seq fun word => ite (fun _ => passExport) fun _ => ?_
  refine ite (fun _ => passDefault) fun _ => ?_
  refine ite (fun _ => pure trivial) fun _ => advance.seq fun _ => cur.seq fun _ => pure trivial

theorem modifier? (constAllowed : Bool) (before : List Grammar.Modifier) :
    Passes x (Grammar.modifier? constAllowed before) := by
  apply cur.seq
  intro t
  split
  · next w hk =>
    refine ite (fun _ => pure trivial) fun _ => ?_
    extract_lets try_
    have htry : Passes x (try_ ()) := by
      refine (attempt (Q := fun _ => True) ?_).passes.seq fun _ => pure trivial
      exact (passModifier constAllowed).seq fun _ => ite (fun _ => unexpected) fun _ => pure trivial
    clear_value try_
    refine ite (fun _ => ite (fun _ => pure trivial) fun _ => ?_) fun _ => htry
    exact (peekAt _).seq fun _ => ite (fun _ => pure trivial) fun _ => htry
  · exact pure trivial

theorem modifiers (constAllowed : Bool) (before : List Grammar.Modifier) :
    Passes x (Grammar.modifiers constAllowed before) := by
  refine loop (fun _ => True) trivial fun ms _ => (modifier? constAllowed ms).seq fun m => ?_
  cases m with
  | none => exact done trivial
  | some m =>
    dsimp -zeta only
    extract_lets more
    have hmore : Reads x (more ()) (Sum.elim (fun _ => True) fun _ => True) := again trivial
    clear_value more
    exact ite (fun _ => (complain _ _).seq fun _ => hmore) fun _ => hmore

theorem memberModifiers (h : rules.Sound) : Passes x (Grammar.memberModifiers rules) := by
  refine (moreDecorators h).seq fun _ => (modifiers true []).seq fun ms => ?_
  refine ite (fun _ => pure trivial) fun _ => (moreDecorators h).seq fun _ => ?_
  exact ite (fun _ => modifiers true ms) fun _ => pure trivial

/-! ## Parts of types -/

theorem isPart_of_isType {k : Kind} (h : k.isType = true) :
    (k.isType || k.isExpression || k == .parameters) = true := by
  rw [h, Bool.true_or, Bool.true_or]

theorem typeNode {start : Nat} {ps : List Tree}
    (h : AllAre ps fun k => k.isType || k.isExpression || k == .parameters) :
    Reads x (Grammar.typeNode start ps) (·.IsA isType) :=
  node (.after h) rfl

theorem dottedName : Passes x Grammar.dottedName := by
  refine nameText.passes.seq fun _ => loop (fun _ => True) trivial fun _ _ => ?_
  refine (eat _).seq fun _ => ite (fun _ => done trivial) fun _ => ?_
  exact nameText.passes.seq fun _ => again trivial

theorem splitAngle_run (s : ReadState) : Grammar.splitAngle s =
    .ok () (if s.token.kind.isOneOf ["<<", "<<=", "<="] then s.splitAngle else s) := by
  change (if _ then _ else _ : Reader Unit) s = _
  split <;> rfl

theorem splitAngle : Passes x Grammar.splitAngle := by
  refine passes_of_quiet ?_ ?_ ?_ ?_
  · intro s
    rw [splitAngle_run]
    split <;> rfl
  · intro s
    rw [splitAngle_run]
    split <;> rfl
  · intro s
    rw [splitAngle_run]
    split <;> rfl
  · intro s b fs
    rw [splitAngle_run, splitAngle_run]
    change EStateM.Result.ok () (if s.token.kind.isOneOf _ = true then _ else _) = _
    split <;> rfl

theorem typeArguments (h : rules.Sound) :
    Reads x (Grammar.typeArguments rules) (AllAre · isType) := by
  refine splitAngle.seq fun _ => (eat _).seq fun _ => ite (fun _ => pure .nil) fun _ => ?_
  exact (list h.type).bind fun items hitems => (expect _).seq fun _ => pure hitems

theorem typeArgumentsOnLine (h : rules.Sound) :
    Reads x (Grammar.typeArgumentsOnLine rules) (AllAre · isType) :=
  cur.seq fun _ => ite (fun _ => pure .nil) fun _ => typeArguments h

theorem typeReference (h : rules.Sound) :
    Reads x (Grammar.typeReference rules) (·.IsA isType) := by
  refine start.seq fun _ => dottedName.seq fun _ => ?_
  exact (typeArgumentsOnLine h).bind fun ts hts => typeNode (hts.weaken fun _ => isPart_of_isType)

/-! ## Functions -/

theorem passesCleanly_run (r : Reader α) (s : ReadState) : Grammar.passesCleanly r s =
    match Reader.attempt r s with
    | .ok (some _) t => .ok (t.faults.length == s.faults.length) t
    | .ok none t => .ok false t
    | .error e t => .error e t := by
  change EStateM.bind (Reader.attempt r) _ s = _
  rw [EStateM.bind]
  rcases Reader.attempt r s with ⟨_ | _, t⟩ | ⟨e, t⟩ <;> rfl

/-- Whether an attempt notes faults is the same under both permissions. -/
theorem passesCleanly {r : Reader α} {Q : α → Prop} (h : Reads false r Q) :
    Passes x (Grammar.passesCleanly r) := by
  intro s hs b fs hb
  obtain ⟨more, _, hleads, heq⟩ := h.attempt s hs b fs hb
  obtain ⟨new, hnew, _, hsame⟩ := hleads.faults
  have hmore : more = new := hsame nofun
  refine ⟨more, ?_⟩
  rw [passesCleanly_run, passesCleanly_run, heq]
  rcases hr : Reader.attempt r s with ⟨_ | a, t⟩ | ⟨e, t⟩
  · rw [hr] at hleads
    exact ⟨trivial, hleads.cover, rfl⟩
  · rw [hr] at hleads hnew
    have hcount : ((more ++ fs).length == fs.length) = (t.faults.length == s.faults.length) := by
      have ht : t.faults = new ++ s.faults := hnew
      rw [ht, hmore, List.length_append, List.length_append, Bool.eq_iff_iff, beq_iff_eq,
        beq_iff_eq]
      omega
    exact ⟨trivial, hleads.cover, congrArg (EStateM.Result.ok · _) hcount⟩
  · rw [hr] at hleads
    exact ⟨trivial, hleads.cover, rfl⟩

theorem passParameterStart (h : rules.Sound) : Passes x (Grammar.passParameterStart rules) := by
  refine (modifiers _ _).seq fun _ => curKind.seq fun k => ite (fun _ => ?_) fun _ => ?_
  · exact advance.seq fun _ => pure trivial
  · exact ite (fun _ => pure trivial) fun _ => passesCleanly h.pattern

theorem opensParameters (h : rules.Sound) : Passes x (Grammar.opensParameters rules) := by
  refine ahead (advance.seq fun _ => curKind.seq fun _ => ite (fun _ => pure trivial) fun _ => ?_)
  refine (passParameterStart h).seq fun _ => ite (fun _ => pure trivial) fun _ => ?_
  refine curKind.seq fun _ => ite (fun _ => pure trivial) fun _ => ?_
  exact (eat _).andM (at_ _)

theorem atFunctionType (h : rules.Sound) : Passes x (Grammar.atFunctionType rules) := by
  refine curKind.seq fun k => ite (fun _ => pure trivial) fun _ => ?_
  refine ite (fun _ => opensParameters h) fun _ => (pure trivial).andM (peekAt _)

theorem predicatePrefix : Passes x Grammar.predicatePrefix :=
  nameText.passes.seq fun _ => cur.seq fun _ => ite (fun _ => advance) fun _ => unexpected

theorem functionType (h : rules.Sound) :
    Reads x (Grammar.functionType rules) (·.IsA isType) := by
  refine start.seq fun _ => (eat _).seq fun _ => (eat _).seq fun _ => ?_
  refine (parameters h).bind fun ps hps => (expect _).seq fun _ => curKind.seq fun k => ?_
  extract_lets result
  have hresult : Reads x (result ()) (·.IsA isType) := by
    refine h.type.bind fun t ht => typeNode (.cons (hps.weaken fun k hk => ?_) (.singleton ?_))
    · rw [hk, Bool.or_true]
    · exact ht.weaken fun _ => isPart_of_isType
  clear_value result
  refine ite (fun _ => ?_) fun _ => hresult
  exact predicatePrefix.attempt.passes.seq fun _ => hresult

/-! ## Objects and tuples -/

theorem atIndexSignature : Passes x Grammar.atIndexSignature := by
  refine (at_ _).seq fun _ => ite (fun _ => pure trivial) fun _ => ?_
  refine peekKind.seq fun _ => ite (fun _ => pure trivial) fun _ => ?_
  exact peekSecond.seq fun _ => pure trivial

theorem indexSignature {Q : α → Prop} : Reads x Grammar.indexSignature Q :=
  (expect _).seq fun _ => nameText.passes.seq fun _ => unexpected

theorem passBeforeKey (words : List String) : Passes x (Grammar.passBeforeKey words) := by
  refine curKind.seq fun _ => ite (fun _ => pure trivial) fun _ => peek.seq fun next => ?_
  exact ite (fun _ => advance.seq fun _ => pure trivial) fun _ => pure trivial

theorem typeMember (h : rules.Sound) : Reads x (Grammar.typeMember rules) (·.IsA isType) := by
  refine start.seq fun _ => atIndexSignature.seq fun _ => ?_
  extract_lets member
  have hmember : Reads x (member ()) (·.IsA isType) := by
    apply curKind.seq
    intro k
    refine ((pure trivial).orM ((at_ _).andM (peekKind.seq fun _ => pure trivial))).seq fun bare => ?_
    extract_lets withName
    have hwithName : ∀ named,
        (AllAre named fun k => k.isType || k.isExpression || k == .parameters) →
        Reads x (withName named) (·.IsA isType) := by
      intro named hnamed
      apply curKind.seq
      intro k
      extract_lets withParameters
      have hwithParameters : ∀ ps,
          (AllAre ps fun k => k.isType || k.isExpression || k == .parameters) →
          Reads x (withParameters ps) (·.IsA isType) := by
        intro ps hps
        exact ((eat _).orM (eat _)).seq fun _ => typeNode (hnamed.append hps)
      clear_value withParameters
      refine ite (fun _ => ?_) fun _ => give (hwithParameters _ .nil)
      refine (parameters h).bind fun p hp => give (hwithParameters _ (.singleton ?_))
      exact hp.weaken fun k hk => by rw [hk, Bool.or_true]
    clear_value withName
    refine ite (fun _ => ?_) fun _ => ?_
    · exact (eat _).seq fun _ => give (hwithName _ .nil)
    · refine ((passBeforeKey _).orM (passBeforeKey _)).seq fun _ => (key h).bind fun k hk => ?_
      refine (eat _).seq fun _ => give (hwithName _ (.singleton ?_))
      exact hk.weaken fun k hk => by rw [hk, Bool.or_true, Bool.true_or]
  clear_value member
  exact ite (fun _ => indexSignature.never) fun _ => hmember

theorem objectType (h : rules.Sound) : Reads x (Grammar.objectType rules) (·.IsA isType) := by
  refine start.seq fun _ => (expect _).seq fun _ => ?_
  refine (loop (Q := (AllAre · isType)) (AllAre · isType) .nil fun items hitems => ?_).bind
    fun items hitems => (expect _).seq fun _ => typeNode (hitems.weaken fun _ => isPart_of_isType)
  refine (at_ _).seq fun _ => atEnd.seq fun _ => ite (fun _ => doneReversed hitems) fun _ => ?_
  exact (typeMember h).bind fun t ht => againCons ht hitems

theorem atMappedType : Passes x Grammar.atMappedType := by
  refine ahead (advance.seq fun _ => ((eat _).orM (eat _)).seq fun _ => ite (fun _ => at_ _) ?_)
  refine fun _ => (eat _).seq fun _ => (eat _).seq fun _ => ite (fun _ => pure trivial) fun _ => ?_
  exact curKind.seq fun _ => ite (fun _ => pure trivial) fun _ => advance.seq fun _ => at_ _

theorem mappedType (h : rules.Sound) : Reads x (Grammar.mappedType rules) (·.IsA isType) := by
  refine start.seq fun _ => (expect _).seq fun _ => ((eat _).orM (eat _)).seq fun _ => ?_
  refine (eat _).seq fun _ => (expect _).seq fun _ => boundName.passes.seq fun _ => ?_
  refine (expect _).seq fun _ => h.type.bind fun keys hkeys => (eat _).seq fun _ => ?_
  extract_lets withRenamed
  have hwithRenamed : ∀ renamed, AllAre renamed isType →
      Reads x (withRenamed renamed) (·.IsA isType) := by
    intro renamed hrenamed
    refine (expect _).seq fun _ => ((eat _).orM (eat _)).seq fun _ => ?_
    extract_lets withValues afterMarks
    have hwithValues : ∀ values, AllAre values isType →
        Reads x (withValues values) (·.IsA isType) := by
      intro values hvalues
      refine (eat _).seq fun _ => (expect _).seq fun _ => ?_
      refine typeNode (.weaken ?_ fun _ => isPart_of_isType)
      exact .cons hkeys (hrenamed.append hvalues)
    have hafterMarks : Reads x (afterMarks ()) (·.IsA isType) := by
      refine (eat _).seq fun _ => ite (fun _ => ?_) fun _ => give (hwithValues _ .nil)
      exact h.type.bind fun t ht => give (hwithValues _ (.singleton ht))
    clear_value withValues afterMarks
    refine ite (fun _ => ?_) fun _ => (eat _).seq fun _ => hafterMarks
    exact (expect _).seq fun _ => hafterMarks
  clear_value withRenamed
  refine ite (fun _ => ?_) fun _ => give (hwithRenamed _ .nil)
  exact h.type.bind fun t ht => give (hwithRenamed _ (.singleton ht))

theorem passElementName : Passes x Grammar.passElementName :=
  (eat _).seq fun _ => nameText.passes.seq fun _ => (eat _).seq fun _ => expect _

theorem tupleElement (h : rules.Sound) : Reads x (Grammar.tupleElement rules) (·.IsA isType) :=
  passElementName.attempt.passes.seq fun _ => (eat _).seq fun _ => h.type

theorem tupleType (h : rules.Sound) : Reads x (Grammar.tupleType rules) (·.IsA isType) := by
  refine start.seq fun _ => (expect _).seq fun _ => ?_
  apply (list (tupleElement h)).bind
  intro items hitems
  exact (expect _).seq fun _ => typeNode (hitems.weaken fun _ => isPart_of_isType)

/-! ## Operands -/

theorem importedType (h : rules.Sound) :
    Reads x (Grammar.importedType rules) (·.IsA isType) := by
  refine start.seq fun _ => (expect _).seq fun _ => (expect _).seq fun _ => ?_
  refine h.type.bind fun source hsource => (expect _).seq fun _ => (eat _).seq fun dot => ?_
  extract_lets finish
  have hfinish : Reads x (finish ()) (·.IsA isType) :=
    (typeArgumentsOnLine h).bind fun ts hts =>
      typeNode ((hts.cons hsource).weaken fun _ => isPart_of_isType)
  clear_value finish
  exact ite (fun _ => dottedName.seq fun _ => hfinish) fun _ => hfinish

theorem queriedType (h : rules.Sound) : Reads x (Grammar.queriedType rules) (·.IsA isType) := by
  refine start.seq fun _ => advance.seq fun _ => (at_ _).seq fun _ => ?_
  refine ite (fun _ => importedType h) fun _ => dottedName.seq fun _ => ?_
  exact (typeArgumentsOnLine h).bind fun ts hts => typeNode (hts.weaken fun _ => isPart_of_isType)

theorem literalType : Reads x Grammar.literalType (·.IsA isType) := by
  refine cur.seq fun t => ite (fun _ => leaf .none rfl) fun _ => ?_
  exact numberLiteral.mono fun n hn => hn.weaken fun _ => isType_of_isNumberLiteral

theorem typeOperand (h : rules.Sound) : Reads x (Grammar.typeOperand rules) (·.IsA isType) := by
  refine start.seq fun _ => curKind.seq fun k => ite (fun _ => ?_) fun _ =>
    ite (fun _ => literalType) fun _ => ite (fun _ => leaf .none rfl) fun _ => ?_
  · exact stringLiteral.mono fun s hs => hs.weaken fun _ => isType_of_isStringLiteral
  refine ite (fun _ => (peekAt _).seq fun _ => ?_) fun _ => ?_
  · exact ite (fun _ => typeReference h) fun _ => leaf (.after .nil) rfl
  split
  · refine advance.seq fun _ => curKind.seq fun _ => ite (fun _ => ?_) fun _ => unexpected
    exact numberLiteral.mono fun n hn => hn.weaken fun _ => isType_of_isNumberLiteral
  · exact atMappedType.seq fun _ => ite (fun _ => mappedType h) fun _ => objectType h
  · exact tupleType h
  · refine advance.seq fun _ => h.type.bind fun t ht => (expect _).seq fun _ => ?_
    exact typeNode (.singleton (ht.weaken fun _ => isPart_of_isType))
  · exact leaf .none rfl
  · exact queriedType h
  · exact importedType h
  · exact leaf .none rfl
  · exact typeReference h

/-! ## Types -/

theorem postfixType (h : rules.Sound) : Reads x (Grammar.postfixType rules) (·.IsA isType) := by
  refine start.seq fun _ => (typeOperand h).bind fun first hfirst => ?_
  refine loop (·.IsA isType) hfirst fun t ht => cur.seq fun sign => ?_
  refine ite (fun _ => done ht) fun _ => ?_
  refine ite (fun _ => advance.seq fun _ => again ht) fun _ => ite (fun _ => ?_) fun _ => ?_
  · exact peekKind.seq fun _ => ite (fun _ => done ht) fun _ => advance.seq fun _ => again ht
  refine ite (fun _ => advance.seq fun _ => curKind.seq fun _ => (at_ _).seq fun _ => ?_)
    fun _ => done ht
  refine ite (fun _ => (expect _).seq fun _ => again ht) fun _ => ?_
  refine h.type.bind fun index hindex => (expect _).seq fun _ => ?_
  refine (typeNode (.weaken ?_ fun _ => isPart_of_isType)).bind fun t ht => again ht
  exact .cons ht (.singleton hindex)

theorem inferredType (h : rules.Sound) (conditional : Bool) :
    Reads x (Grammar.inferredType rules conditional) (·.IsA isType) := by
  refine start.seq fun _ => advance.seq fun _ => boundName.passes.seq fun _ => ?_
  refine (attempt (Q := (·.IsA isType)) ?_).bind fun bound hbound => typeNode ?_
  · refine (expect _).seq fun _ => h.type.bind fun t ht => ?_
    extract_lets finish
    have hfinish : Reads x (finish ()) (·.IsA isType) := pure ht
    clear_value finish
    exact (at_ _).seq fun _ => ite (fun _ => unexpected.never) fun _ => hfinish
  · exact fun t ht => (hbound t (Option.mem_toList.1 ht)).weaken fun _ => isPart_of_isType

theorem prefixType (h : rules.Sound) (conditional : Bool) :
    Reads x (Grammar.prefixType rules conditional) (·.IsA isType) := by
  refine (loop (Q := fun _ => True) (fun _ => True) trivial fun _ _ => ?_).seq fun _ => ?_
  · refine curKind.seq fun _ => ite (fun _ => done trivial) fun _ => ?_
    exact advance.seq fun _ => again trivial
  · exact (at_ _).seq fun _ => ite (fun _ => inferredType h conditional) fun _ => postfixType h

theorem joinedTypes (sign : String) {element : Reader Tree} (h : Reads x element (·.IsA isType)) :
    Reads x (Grammar.joinedTypes sign element) (·.IsA isType) := by
  refine start.seq fun _ => (eat _).seq fun _ => h.bind fun first hfirst => ?_
  refine (loop (Q := (AllAre · isType)) (AllAre · isType) (.singleton hfirst)
    fun items hitems => ?_).bind fun all hall => typeNode (hall.weaken fun _ => isPart_of_isType)
  refine (eat _).seq fun _ => ite (fun _ => ?_) fun _ => doneReversed hitems
  exact h.bind fun t ht => againCons ht hitems

theorem typeExpression (h : rules.Sound) (conditional : Bool) :
    Reads x (Grammar.typeExpression rules conditional) (·.IsA isType) := by
  refine start.seq fun _ => (atFunctionType h).seq fun _ => ?_
  refine ite (fun _ => functionType h) fun _ => ?_
  apply (joinedTypes _ (joinedTypes _ (prefixType h conditional))).bind
  intro t ht
  refine cur.seq fun _ => (at_ _).seq fun _ => ite (fun _ => pure ht) fun _ => ?_
  refine advance.seq fun _ => h.type.bind fun bound hbound => (expect _).seq fun _ => ?_
  refine h.type.bind fun yes hyes => (expect _).seq fun _ => h.type.bind fun no hno => ?_
  refine typeNode (.weaken ?_ fun _ => isPart_of_isType)
  exact .cons ht (.cons hbound (.cons hyes (.singleton hno)))

end Reads

end PluginAudit.Script
