import Dripline.Transactions.Gaps

/-!
# What a bootstrap marks as known

Whatever it is answered, a bootstrap adds rows, makes known what is processed, and else marks
signatures of the main wallet.
-/

namespace Dripline.Transactions.History

open Dripline.Wallets

/-- A signature of a wallet. -/
def OfWallet (wallet walletAddress _signature : String) : Prop := walletAddress = wallet

/-- Rows are added, and signatures of the main wallet are remembered. -/
structure Marks (history after : History) : Prop where
  grows : history.Grows after (OfWallet history.wallet)
  remembered : ∀ key ∈ after.globalKnownSignatures,
    key ∈ history.globalKnownSignatures ∨ key.1 = history.wallet

variable {history : History}

lemma Marks.refl : history.Marks history := ⟨Grows.refl _, fun _ => Or.inl⟩

lemma Marks.trans {middle after : History} (h : history.Marks middle) (h' : middle.Marks after) :
    history.Marks after where
  grows := h.grows.trans (h.grows.wallet ▸ h'.grows)
  remembered := fun key hkey => (h'.remembered key hkey).elim (h.remembered key) fun hwallet =>
    Or.inr (hwallet.trans h.grows.wallet)

lemma Leaves.marks {after : History} (h : history.Grows after Nothing) (h' : history.Leaves after) :
    history.Marks after :=
  ⟨h.mono fun _ _ hnothing => hnothing.elim, fun _ hkey => Or.inl (h'.remembered ▸ hkey)⟩

lemma marks_write (history : History) (written : Bool) (completion : Completion) (deed : Deed) :
    history.Marks (history.write written completion deed) := by
  cases written with
  | false => exact Marks.refl
  | true =>
    refine ⟨deed_grows fun _ => Or.inr rfl, fun key hkey => ?_⟩
    cases deed with
    | committed =>
      obtain ⟨-, -, hremembered, -⟩ :=
        history.addKnownSignature_tables history.wallet completion.signature completion.now
      exact Or.inl (hremembered ▸ hkey)
    | remembered =>
      rcases List.mem_append.mp hkey with hold | hnew
      · exact Or.inl hold
      · exact Or.inr (congrArg Prod.fst (List.mem_singleton.mp hnew))
    | cached | recorded | published => exact Or.inl hkey

lemma marks_complete (history : History) (completion : Completion) :
    history.Marks (history.complete completion) := by
  let raw := history.write completion.rawStored completion .cached
  let stored := raw.write completion.processedStored completion .recorded
  let known := stored.write completion.marked completion .committed
  have hcomplete : history.complete completion =
      if completion.returned then known.write true completion .remembered else stored := rfl
  have hstored : history.Marks stored := (history.marks_write _ _ _).trans (raw.marks_write _ _ _)
  rw [hcomplete]
  split
  · exact (hstored.trans (stored.marks_write _ _ _)).trans (known.marks_write _ _ _)
  · exact hstored

lemma marks_process (signatures : List String) (completions done : List Completion)
    (history : History) : history.Marks (process signatures completions done history).2 := by
  induction completions generalizing done history with
  | nil => exact Marks.refl
  | cons completion completions ih =>
    unfold process
    split
    · exact (history.marks_complete completion).trans (ih _ _)
    · exact ih _ _

lemma marks_prepare (answers : BootstrapAnswers) : history.Marks (history.prepare answers).2.2 := by
  obtain ⟨hgrows, hleaves⟩ := history.reconciled_spec answers
  have hcollect := collect_spec ((history.reconciled answers).bootstrapMode answers).1
    ((history.reconciled answers).bootstrapMode answers).2 answers.pages
    (history.reconciled answers) none []
  have hmarks := Leaves.marks (hgrows.trans hcollect.1) (hleaves.trans hcollect.2)
  unfold prepare
  dsimp only
  split
  case h_1 signatures reachedChainEnd before collected heq =>
    rw [heq] at hmarks
    refine hmarks.trans ⟨⟨rfl, rfl, fun _ h => h, fun _ h => h, fun _ _ h => Or.inl h, [],
      (List.append_nil _).symm, by simp⟩, fun key hkey => ?_⟩
    rcases List.mem_append.mp hkey with hold | hnew
    · exact Or.inl hold
    · obtain ⟨signature, -, rfl⟩ := List.mem_map.mp hnew
      exact Or.inr rfl
  case h_2 failed collected _ heq =>
    rw [heq] at hmarks
    exact hmarks

lemma marks_bootstrap (answers : BootstrapAnswers) :
    history.Marks (history.bootstrap answers).2 := by
  have hprepared : history.Marks (history.prepare answers).2.2 := marks_prepare answers
  unfold bootstrap
  dsimp only
  split
  case h_1 heq => exact (congrArg (·.2.2) heq) ▸ hprepared
  case h_2 heq => exact (congrArg (·.2.2) heq) ▸ hprepared
  case h_3 reachedChainEnd before signaturesToProcess prepared heq =>
    rw [heq] at hprepared
    have hprocessed := hprepared.trans
      (marks_process signaturesToProcess answers.completions [] prepared)
    split
    · exact hprocessed
    · refine hprocessed.trans ⟨(finish_spec _ _ _ _).1, fun key hkey => Or.inl ?_⟩
      revert hkey
      unfold finish writing
      split
      · exact id
      · split
        · split
          · split <;> exact id
          · exact id
        · split <;> exact id

end Dripline.Transactions.History
