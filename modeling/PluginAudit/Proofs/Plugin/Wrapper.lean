import PluginAudit.Proofs.Plugin.Acceptance
import PluginAudit.Proofs.Plugin.CallTexts

/-!
# Broken texts and the wrapper

A text that is no script even with `return` at top level is never accepted as it stands. The
wrapper is pasted around it as text, so the wrapper accepts such a text if the two make a script.
-/

namespace PluginAudit.Plugin

open Script

def IsBroken (text : List Char) : Prop :=
  ∀ tree, read true text ≠ .ok tree

theorem IsBroken.not_passes {text : List Char} (h : IsBroken text) (edition : Edition) :
    ¬ Passes text edition := by
  rintro ⟨tree, hread, _⟩
  exact h tree (read_true_of_read_false hread)

theorem IsBroken.scanEntryPoints {text : List Char} (h : IsBroken text) :
    scanEntryPoints text = ⟨countShapes text, .pattern⟩ := by
  rw [Plugin.scanEntryPoints]
  split
  · next tree hread => exact absurd hread (h tree)
  · rfl

theorem passes_newest {full : List Char} {tree : Tree} (hread : read false full = .ok tree) :
    Passes full .es2024 :=
  ⟨tree, hread, Finding.firstAbove?_eq_none.2 fun _ _ => edition_le_newest _⟩

/-- Nothing accepts the text, at any edition and under any header. -/
def IsRejected (text : List Char) : Prop :=
  ∀ edition, (∀ r, acceptWrapped text edition ≠ .ok r) ∧ (∀ r, accept text edition ≠ .ok r) ∧
    ∀ header, header.edition = edition → (judge header text).isValid = false

section

variable {text : List Char} (h : IsBroken text)
include h

theorem IsBroken.accept_eq_ok {edition : Edition} {r : Accepted} :
    accept text edition = .ok r ↔
      hasReturnLine text = true ∧ acceptWrapped text edition = .ok r := by
  rw [Plugin.accept_eq_ok, acceptWrapped_eq_ok]
  simp only [h.not_passes, and_false, not_false_eq_true, true_and, false_or]

theorem IsBroken.isValid_judge {header : Header} :
    (judge header text).isValid = true ↔
      (if header.category.singleEntryPoint then countShapes text = 1
        else hasReturnLine text = true) ∧ Passes (wrap text) header.edition := by
  rw [Plugin.isValid_judge, h.scanEntryPoints]
  split
  · rfl
  · simp only [h.accept_eq_ok, acceptWrapped_eq_ok]
    exact ⟨fun ⟨_, hline, _, hpasses⟩ => ⟨hline, hpasses⟩,
      fun ⟨hline, hpasses⟩ => ⟨_, hline, rfl, hpasses⟩⟩

theorem IsBroken.isRejected_iff :
    IsRejected text ↔ ∀ tree, read false (wrap text) ≠ .ok tree := by
  constructor
  · intro hrejected tree hread
    have hwrapped := acceptWrapped_eq_ok.2 ⟨rfl, passes_newest hread⟩
    exact (hrejected .es2024).1 _ hwrapped
  · intro hwrap edition
    have hfails : ∀ e, ¬ Passes (wrap text) e := fun e ⟨tree, hread, _⟩ => hwrap tree hread
    have hwrapped : ∀ r, acceptWrapped text edition ≠ .ok r := fun r hr =>
      hfails _ (acceptWrapped_eq_ok.1 hr).2
    refine ⟨hwrapped, fun r hr => hwrapped r (h.accept_eq_ok.1 hr).2, fun header _ => ?_⟩
    rw [Bool.eq_false_iff]
    exact fun hvalid => hfails _ (h.isValid_judge.1 hvalid).2

end

/-- A broken text is accepted only in the wrapper, and it is rejected everywhere exactly if the
wrapper and the text do not make a script. -/
theorem broken_rejected_iff {text : List Char} (hbroken : IsBroken text) :
    (∀ edition r, accept text edition = .ok r ↔
      hasReturnLine text = true ∧ acceptWrapped text edition = .ok r) ∧
    (∀ header, (judge header text).isValid = true ↔
      (if header.category.singleEntryPoint then countShapes text = 1
        else hasReturnLine text = true) ∧ Passes (wrap text) header.edition) ∧
    (IsRejected text ↔ ∀ tree, read false (wrap text) ≠ .ok tree) :=
  ⟨fun _ _ => hbroken.accept_eq_ok, fun _ => hbroken.isValid_judge, hbroken.isRejected_iff⟩

theorem broken_rejected_missing_value :
    IsBroken "return (1 + ".toList ∧ IsRejected "return (1 + ".toList := by
  have hbroken : IsBroken "return (1 + ".toList := not_read (by decide +kernel)
  have hwrap : ∀ tree, read false (wrap "return (1 + ".toList) ≠ .ok tree :=
    not_read (by decide +kernel)
  exact ⟨hbroken, (broken_rejected_iff hbroken).2.2.2 hwrap⟩

/-- A text is broken and rejected everywhere if call statements begin it and a sign follows that
nothing in a script begins with. -/
theorem isRejected_of_idle {text u : List Char} {c : Char} (h : CallsUpTo (c :: u) text)
    (hc : c ∈ idleCharacters) : IsBroken text ∧ IsRejected text := by
  have hbroken : IsBroken text := not_read_idle h hc
  exact ⟨hbroken, hbroken.isRejected_iff.2 (not_read_wrap_idle h hc)⟩

/-- A text that closes the wrapper and opens a function of its own. -/
theorem broken_text_accepted :
    IsBroken "\x7d);(function()\x7b".toList ∧
      acceptWrapped "\x7d);(function()\x7b".toList .es5 = .ok ⟨.es5, true⟩ := by
  refine ⟨not_read (by decide +kernel), acceptWrapped_eq_ok.2 ⟨rfl, ?_⟩⟩
  obtain ⟨tree, hread, hcheck⟩ := exists_read false (wrap "\x7d);(function()\x7b".toList)
    (fun t => Finding.firstAbove? .es5 t.findings = none) (by decide +kernel)
  exact ⟨tree, hread, of_decide_eq_true hcheck⟩

end PluginAudit.Plugin
