import Dripline.Found.Text
import Dripline.Positions.Ledger.Refinement

/-!
# Round keys

A round key is the identity of a round in the database, under a unique index. It is text joined
from a signature and a mint, so two rounds only get different keys if the texts can be told apart.
-/

namespace Dripline.Positions.Ledger

open Dripline.Chain Dripline.Transactions Dripline.Found.Lanes Dripline.Found.Text

/-- A signature a key can hold: no separator, and neither of the words a key is built with. -/
structure SignatureSafe (signature : String) : Prop where
  colon : ':' ∉ signature.toList
  genesis : signature ≠ "genesis"
  holding : signature ≠ "holding"

/-- A row whose signature and mint can be told apart inside a key. -/
structure KeySafe (delta : SubjectAssetDelta) : Prop where
  signature : SignatureSafe delta.signature
  mint : ':' ∉ delta.mint.toList

namespace RoundName

/-- The signature inside a name can be held by a key. -/
def Safe : RoundName → Prop
  | .grounded signature => SignatureSafe signature
  | .genesis => True
  | .gap signature => SignatureSafe signature
  | .holding => True

/-- A key without its mint. -/
def stem : RoundName → String
  | .grounded signature => signature
  | .genesis => "genesis"
  | .gap signature => "genesis" ++ ":" ++ signature
  | .holding => "genesis" ++ ":" ++ "holding"

lemma genesis_colon : "genesis:" = "genesis" ++ ":" := by decide

lemma key_eq_stem (mint : String) (name : RoundName) :
    name.key mint = name.stem ++ ":" ++ mint := by
  cases name with
  | grounded signature => rfl
  | genesis =>
    show "genesis:" ++ mint = "genesis" ++ ":" ++ mint
    rw [genesis_colon]
  | gap signature =>
    show "genesis:" ++ signature ++ ":" ++ mint = "genesis" ++ ":" ++ signature ++ ":" ++ mint
    rw [genesis_colon]
  | holding => rfl

lemma stem_inj {name name' : RoundName} (hs : name.Safe) (hs' : name'.Safe)
    (h : name.stem = name'.stem) : name = name' := by
  have hholding : ':' ∉ "holding".toList := by decide
  have hgenesis : ':' ∉ "genesis".toList := by decide
  cases name with
  | grounded s =>
    cases name' with
    | grounded s' => exact congrArg _ h
    | genesis => exact absurd h hs.genesis
    | gap s' | holding => exact absurd h (ne_join rfl hs.colon)
  | genesis =>
    cases name' with
    | grounded s' => exact absurd h.symm hs'.genesis
    | genesis => rfl
    | gap s' | holding => exact absurd h (ne_join rfl hgenesis)
  | gap s =>
    cases name' with
    | grounded s' => exact absurd h.symm (ne_join rfl hs'.colon)
    | genesis => exact absurd h.symm (ne_join rfl hgenesis)
    | gap s' => exact congrArg _ (join_inj rfl h hs.colon hs'.colon).2
    | holding => exact absurd (join_inj rfl h hs.colon hholding).2 hs.holding
  | holding =>
    cases name' with
    | grounded s' => exact absurd h.symm (ne_join rfl hs'.colon)
    | genesis => exact absurd h.symm (ne_join rfl hgenesis)
    | gap s' => exact absurd (join_inj rfl h hholding hs'.colon).2.symm hs'.holding
    | holding => rfl

lemma key_inj {name name' : RoundName} {mint mint' : String} (hs : name.Safe) (hs' : name'.Safe)
    (hm : ':' ∉ mint.toList) (hm' : ':' ∉ mint'.toList) (h : name.key mint = name'.key mint') :
    name = name' ∧ mint = mint' := by
  rw [key_eq_stem, key_eq_stem] at h
  obtain ⟨hstem, hmint⟩ := join_inj rfl h hm hm'
  exact ⟨stem_inj hs hs' hstem, hmint⟩

end RoundName

section reduced

variable {deltas : List SubjectAssetDelta} (hsafe : ∀ delta ∈ deltas, KeySafe delta)

include hsafe

lemma name_of_mem_reduceRounds {round : LedgerRound} (hround : round ∈ reduceRounds deltas) :
    ∃ name : RoundName, round.roundKey = name.key round.mint ∧ name.Safe ∧ name ≠ .holding ∧
      ':' ∉ round.mint.toList := by
  obtain ⟨c, hc, rfl⟩ := mem_reduceRounds.mp hround
  have hfirst := delta_of_mem_chapter hc c.segment.first_mem
  have hrow := hsafe _ hfirst.1
  have hname := (wellFormed_of_mem_chapters c hc).name
  refine ⟨c.segment.name, by simp, ?_, ?_, by simpa using hrow.mint⟩
  · rcases hname with ⟨h, -⟩ | ⟨h | h, -⟩ <;> rw [h]
    · exact hrow.signature
    · trivial
    · exact hrow.signature
  · rcases hname with ⟨h, -⟩ | ⟨h | h, -⟩ <;> rw [h] <;> simp

lemma mint_of_roundKey_eq {r r' : LedgerRound} (hr : r ∈ reduceRounds deltas)
    (hr' : r' ∈ reduceRounds deltas) (h : r.roundKey = r'.roundKey) : r.mint = r'.mint := by
  obtain ⟨name, hkey, hs, -, hm⟩ := name_of_mem_reduceRounds hsafe hr
  obtain ⟨name', hkey', hs', -, hm'⟩ := name_of_mem_reduceRounds hsafe hr'
  exact (RoundName.key_inj hs hs' hm hm' (by rw [← hkey, ← hkey', h])).2

lemma nodup_roundKeys (hunique : (deltas.map fun d => (d.signature, d.mint)).Nodup) :
    ((reduceRounds deltas).map (·.roundKey)).Nodup := by
  apply nodup_map_of_lanes (fun r : LedgerRound => r.mint)
  · intro mint
    rw [((filter_reduceRounds_perm deltas mint).map _).nodup_iff, List.map_map]
    have hkeys : (trail deltas mint).chapters.map ((·.roundKey) ∘ Chapter.round) =
        (trail deltas mint).names.map (RoundName.key mint) := by
      rw [Trail.names, List.map_map]
      apply List.map_congr_left
      intro c hc
      simp [(delta_of_mem_chapter hc c.segment.first_mem).2.2.2]
    have hsig : ((stepsOf deltas mint).map (·.delta.signature)).Nodup := by
      have hrows : ((rows deltas).map fun d => (d.signature, d.mint)).Nodup := by
        refine List.Nodup.sublist (List.filter_sublist.map _) ?_
        refine (List.Perm.nodup_iff ((Found.StableSort.sortBy_perm _ _).map _)).mpr ?_
        exact hunique.sublist (List.filter_sublist.map _)
      have hmint : ((stepsOf deltas mint).map fun s => (s.delta.signature, s.delta.mint)).Nodup := by
        have := hrows.sublist ((List.filter_sublist (p := (·.mint = mint))).map _)
        rwa [← map_delta_stepsOf, List.map_map] at this
      refine List.Nodup.of_map (fun signature => (signature, mint)) ?_
      rw [List.map_map]
      convert hmint using 1
      apply List.map_congr_left
      intro s hs
      simp [(delta_of_mem_stepsOf hs).2.2.2]
    rw [hkeys]
    refine List.Nodup.map_on ?_ (nodup_names hsig)
    intro name hname name' hname' hkey
    have hsource : ∀ name ∈ (trail deltas mint).names, name.Safe ∧ ':' ∉ mint.toList := by
      intro name hname
      obtain ⟨c, hc, rfl⟩ := List.mem_map.mp hname
      obtain ⟨hrow, -, -, hm⟩ := delta_of_mem_chapter hc c.segment.first_mem
      refine ⟨?_, by simpa [hm] using (hsafe _ hrow).mint⟩
      rcases (wellFormed_of_mem_chapters c hc).name with ⟨h, -⟩ | ⟨h | h, -⟩ <;> rw [h]
      · exact (hsafe _ hrow).signature
      · trivial
      · exact (hsafe _ hrow).signature
    obtain ⟨hs, hm⟩ := hsource name hname
    exact (RoundName.key_inj hs (hsource name' hname').1 hm hm hkey).1
  · intro r hr r' hr' h
    exact mint_of_roundKey_eq hsafe hr hr' h

end reduced

end Dripline.Positions.Ledger
