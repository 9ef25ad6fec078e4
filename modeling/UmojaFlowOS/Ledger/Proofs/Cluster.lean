import UmojaFlowOS.Ledger.TigerBeetle

/-!
# What a batch leaves in the cluster

Transfers are only added, each from the batch, and a transfer that was not refused is
there afterwards.
-/

namespace UmojaFlowOS.Ledger.Tb

/-- A status with which TigerBeetle holds the transfer. -/
def TransferStatus.accepted : TransferStatus → Bool
  | created | «exists» => true
  | refused _ => false

variable {cluster : Cluster}

/-- A transfer is refused, is there already, or is added. -/
theorem Cluster.create_cases (cluster : Cluster) (transfer : Transfer) (name : String) :
    cluster.create transfer name = (.refused name, cluster) ∨
    (transfer ∈ cluster.transfers ∧ cluster.create transfer name = (.exists, cluster)) ∨
    ((cluster.create transfer name).1 = .created ∧
      (cluster.create transfer name).2.transfers = cluster.transfers ++ [transfer]) := by
  unfold create
  split
  · rename_i stored found
    by_cases same : stored = transfer
    · subst same
      refine .inr (.inl ⟨List.mem_of_find?_eq_some found, ?_⟩)
      rw [if_pos rfl]
    · rw [if_neg same]
      exact .inl rfl
  split
  · exact .inr (.inr ⟨rfl, rfl⟩)
  · exact .inl rfl

theorem Cluster.mem_create :
    stored ∈ (cluster.create transfer name).2.transfers →
      stored ∈ cluster.transfers ∨ stored = transfer := by
  intro member
  rcases cluster.create_cases transfer name with refused | ⟨-, present⟩ | ⟨-, added⟩
  · rw [refused] at member
    exact .inl member
  · rw [present] at member
    exact .inl member
  · rw [added] at member
    exact (List.mem_append.mp member).imp_right List.mem_singleton.mp

theorem Cluster.subset_create :
    cluster.transfers ⊆ (cluster.create transfer name).2.transfers := by
  rcases cluster.create_cases transfer name with refused | ⟨-, present⟩ | ⟨-, added⟩
  · rw [refused]
    exact List.Subset.refl _
  · rw [present]
    exact List.Subset.refl _
  · rw [added]
    exact List.subset_append_left _ _

theorem Cluster.mem_of_accepted (accepted : (cluster.create transfer name).1.accepted = true) :
    transfer ∈ (cluster.create transfer name).2.transfers := by
  rcases cluster.create_cases transfer name with refused | ⟨member, present⟩ | ⟨-, added⟩
  · rw [refused] at accepted
    cases accepted
  · rw [present]
    exact member
  · rw [added]
    simp

theorem Cluster.subset_createAll (cluster : Cluster) (name : String) (batch : List Transfer) :
    cluster.transfers ⊆ (cluster.createAll name batch).2.transfers := by
  induction batch generalizing cluster with
  | nil => exact List.Subset.refl _
  | cons transfer batch ih =>
    exact List.Subset.trans subset_create (ih (cluster.create transfer name).2)

theorem Cluster.mem_createAll :
    stored ∈ (cluster.createAll name batch).2.transfers →
      stored ∈ cluster.transfers ∨ stored ∈ batch := by
  induction batch generalizing cluster with
  | nil => exact .inl
  | cons transfer batch ih =>
    intro member
    rcases ih member with old | later
    · rcases mem_create old with old | rfl
      · exact .inl old
      · exact .inr (by simp)
    · exact .inr (by simp [later])

theorem Cluster.eq_of_id_eq (left : first ∈ cluster.transfers)
    (right : second ∈ cluster.transfers) (same : first.id = second.id) : first = second :=
  List.inj_on_of_nodup_map cluster.usedOnce left right same

end UmojaFlowOS.Ledger.Tb
