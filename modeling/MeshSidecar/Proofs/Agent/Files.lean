import MeshSidecar.Agent.Basic
import MeshSidecar.Proofs.Text.Parts

/-!
# The files of the generations

Each generation has a file of its own, since its epoch can be read off the name and off the
path (`configName_inj`, `ProxyOptions.configPath_inj`). A file that is written or removed is the
only one that changes (`Directory.get?_of_write`, `Directory.get?_of_remove`).
-/

namespace MeshSidecar

-- ── Names ───────────────────────────────────────────────────────────────────

/-- The epoch is recovered from the name of the file. -/
theorem configName_inj {a b : Epoch} (h : configName a = configName b) : a = b := by
  have hdigits : toString a.toNat = toString b.toNat :=
    (String.append_right_inj _).mp ((String.append_left_inj _).mp h)
  exact UInt32.toNat_inj.mp (Text.eq_of_toString hdigits)

/-- The name is recovered from the path. -/
theorem Text.Path.child_inj {dir a b : String} (h : Path.child dir a = Path.child dir b) :
    a = b := by
  rw [Path.child, Path.child] at h
  split at h
  · exact h
  · split at h
    · exact (String.append_right_inj _).mp h
    · exact (String.append_right_inj _).mp h

/-- Two generations never share a path. -/
theorem ProxyOptions.configPath_inj {options : ProxyOptions} {a b : Epoch}
    (h : options.configPath a = options.configPath b) : a = b :=
  configName_inj (Text.Path.child_inj h)

-- ── Directories ─────────────────────────────────────────────────────────────

namespace Directory

variable {dir after : Directory} {name : String} {content : Bytes}

/-- A file that was written holds what was to be written, and no other one is touched. -/
theorem get?_of_write (h : dir.write name content = (after, none)) (other : String) :
    after.entries.get? other =
      if name = other then some (.file content) else dir.entries.get? other := by
  have hput : after = dir.put name (.file content) := by
    rw [write] at h
    split at h
    · exact nomatch h
    · split at h
      · exact nomatch h
      · split at h
        · exact (Prod.mk.inj h).1.symm
        · split at h
          · exact (Prod.mk.inj h).1.symm
          · exact nomatch h
  rw [hput]
  exact NameTable.get?_insert dir.entries name other (.file content)

/-- No other file is touched when one cannot be written. -/
theorem get?_of_write_ne {result : Directory × Option HostError}
    (h : dir.write name content = result) {other : String} (hne : name ≠ other) :
    result.1.entries.get? other = dir.entries.get? other := by
  have hput : ∀ entry, (dir.put name entry).entries.get? other = dir.entries.get? other := by
    intro entry
    rw [put, NameTable.get?_insert, if_neg hne]
  rw [← h, write]
  split
  · rfl
  · split
    · rfl
    · split
      · exact hput _
      · split <;> exact hput _

/-- A directory that can be reached and does not limit its names refuses nothing. -/
theorem refusalOf_eq_none (haccess : dir.access = .reachable) (hroom : dir.nameRoom = none)
    (name : String) : dir.refusalOf name = none := by
  rw [refusalOf, refusal, haccess, hroom]
  rfl

/-- A directory that was written to refuses what it refused before. -/
theorem refusalOf_write (dir : Directory) (name : String) (content : Bytes) (other : String) :
    (dir.write name content).1.refusalOf other = dir.refusalOf other := by
  rw [write]
  split
  · rfl
  · split
    · rfl
    · split
      · rfl
      · split <;> rfl

/-- What was written could be reached, and still can be. -/
theorem refusalOf_of_write (h : dir.write name content = (after, none)) :
    after.refusalOf name = none := by
  have hsame := refusalOf_write dir name content name
  rw [h] at hsame
  rw [hsame]
  rw [write] at h
  split at h
  · exact nomatch h
  · assumption

/-- A file that was written is read back. -/
theorem read?_of_write (h : dir.write name content = (after, none)) :
    after.read? name = some content := by
  rw [read?, refusalOf_of_write h, get?_of_write h, if_pos rfl]
  rfl

/-- A file that cannot be written is not touched, unless it does not fit. Then the part of it that
    does is left. -/
theorem write_eq_error {error : HostError} (h : dir.write name content = (after, some error)) :
    after = dir ∧ error ≠ .system .storageFull ∨
      ∃ room, dir.room = some room ∧ room < content.length ∧ error = .system .storageFull ∧
        after = dir.put name (.file (content.take room)) := by
  rw [write] at h
  split at h
  · rename_i refused hrefused
    obtain ⟨rfl, hsame⟩ := Prod.mk.inj h
    obtain rfl := Option.some.inj hsame
    refine Or.inl ⟨rfl, ?_⟩
    rintro rfl
    rw [refusalOf, refusal] at hrefused
    split at hrefused
    · exact nomatch hrefused
    · split at hrefused <;> exact nomatch hrefused
  · split at h
    · obtain ⟨rfl, hsame⟩ := Prod.mk.inj h
      obtain rfl := Option.some.inj hsame
      exact Or.inl ⟨rfl, nofun⟩
    · split at h
      · exact nomatch h
      · rename_i room hroom
        split at h
        · exact nomatch h
        · rename_i hlong
          obtain ⟨rfl, hsame⟩ := Prod.mk.inj h
          obtain rfl := Option.some.inj hsame
          exact Or.inr ⟨room, hroom, Nat.lt_of_not_le hlong, rfl, rfl⟩

/-- A directory from which a file was removed refuses what it refused before. -/
theorem refusalOf_remove (dir : Directory) (name other : String) :
    (dir.remove name).1.refusalOf other = dir.refusalOf other := by
  rw [remove]
  split
  · rfl
  · split <;> rfl

/-- A file that is there and not refused is removed, and no other one is touched. -/
theorem get?_of_remove (hallowed : dir.refusalOf name = none)
    (hfile : dir.entries.get? name = some (.file content)) :
    (dir.remove name).2 = none ∧ ∀ other, (dir.remove name).1.entries.get? other =
      if name = other then none else dir.entries.get? other := by
  rw [remove, hallowed, hfile]
  exact ⟨rfl, NameTable.get?_erase dir.entries name⟩

end Directory

end MeshSidecar
