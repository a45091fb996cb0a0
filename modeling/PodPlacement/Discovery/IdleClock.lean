import PodPlacement.Discovery.Poll

/-! # The idle clock — an executor whose time stands still while anyone can run

    Time jumps to the next tick at which something happens, and stands still
    there until everybody has had a turn; whoever cancels has the first. -/

namespace PodPlacement.Executor

/-- A turn at the beginning, and one for everything that happens, behind the canceller's. -/
instance idleClock : Executor where
  polls answer cancelled deadline :=
    ⟨0, false⟩ :: (ticks answer cancelled deadline).map fun n => ⟨n, true⟩
  begins _ _ _ := ⟨_, rfl⟩
  ordered answer cancelled deadline := by
    refine List.pairwise_cons.2 ⟨?_, List.pairwise_map.2 ?_⟩
    · intro poll _
      rcases Nat.eq_zero_or_pos poll.tick with hzero | hpos
      · exact Or.inr ⟨hzero.symm, nofun⟩
      · exact Or.inl hpos
    · refine (pairwise_ticks answer cancelled deadline).imp fun hle => ?_
      rcases Nat.lt_or_eq_of_le hle with hlt | heq
      · exact Or.inl hlt
      · exact Or.inr ⟨heq, fun _ => rfl⟩
  wakesAnswered n _ _ :=
    ⟨⟨n, true⟩, List.mem_cons_of_mem _ (List.mem_map_of_mem (mem_ticks_iff.2 (Or.inl rfl))), rfl⟩
  wakesCancelled _ n _ :=
    List.mem_cons_of_mem _ (List.mem_map_of_mem (f := fun n => (⟨n, true⟩ : Poll))
      (mem_ticks_iff.2 (Or.inr (Or.inl rfl))))
  wakesExpired _ _ n :=
    ⟨⟨n, true⟩, List.mem_cons_of_mem _ (List.mem_map_of_mem (mem_ticks_iff.2
      (Or.inr (Or.inr rfl)))), rfl⟩

end PodPlacement.Executor
