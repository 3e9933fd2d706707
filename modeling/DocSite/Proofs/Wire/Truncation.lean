import DocSite.Proofs.Wire.Safety

/-!
# Torn cache files

A cache file of which only the first bytes have been written is never taken for
a whole one. It is refused at the byte where it ends, or for its magic bytes if
it does not even have those; its card can be read as soon as it is there.

The bytes of a value are never the beginning of another value's bytes: a tame
decoder that has read a value would have read the same from the longer stream.
-/

namespace DocSite.Wire

open Format (tokens read)

/-- The bytes of a value, cut anywhere, are refused at the cut. -/
theorem Reads.torn {d : Decoder α} (h : Reads d ts v) (pos : Nat) (ht : Tame pos least d)
    (hn : n < (bytesOf ts).length) :
    ∃ c, d ⟨pos, (bytesOf ts).take n⟩ = .error (.truncated (pos + n)) c := by
  have hwhole := h pos []
  rw [List.append_nil] at hwhole
  have hstop : (Cursor.mk pos ((bytesOf ts).take n)).stop = pos + n := by
    simp only [Cursor.stop, List.length_take]
    omega
  have hjoined : (Cursor.mk pos ((bytesOf ts).take n)).append ((bytesOf ts).drop n) =
      ⟨pos, bytesOf ts⟩ := by
    rw [Cursor.append, List.take_append_drop]
  rw [← hjoined] at hwhole
  rw [← hstop]
  rcases ht.cut_of_append (Nat.le_refl pos) hwhole with hcut | ⟨c, hc, heq⟩
  · exact hcut
  · -- a value that did not run out would have left the cut-off bytes behind
    have hrest := congrArg (fun c => c.rest.length) heq
    simp only [Cursor.append, List.length_nil, List.length_append, List.length_drop] at hrest
    omega

-- ---------------------------------------------------------------------------
-- Cache files
-- ---------------------------------------------------------------------------

/-- Why a cache file is refused of which only the first `k` bytes are there. -/
def tornCause (k : Nat) : Corruption := if k < 4 then .badMagic else .truncated k

theorem readHeader_torn (body : List UInt8) (h : k < 5) :
    ∃ c, readHeader (.ofBytes ((magic ++ (formatVersion :: body)).take k)) =
      .error (tornCause k) c := by
  match k with
  | 0 | 1 | 2 | 3 | 4 => exact ⟨_, rfl⟩

theorem readHeader_take (body : List UInt8) (k : Nat) :
    readHeader (.ofBytes ((magic ++ (formatVersion :: body)).take (5 + k))) =
      .ok () ⟨5, body.take k⟩ := by
  rw [Nat.add_comm]
  exact readHeader_append (body.take k)

theorem tame_body : Tame lo 1
    (do return { metadata := ← read, files := ← read, natives := ← read } : Decoder Record) :=
  .bind tame_metadata fun _ => .bind (.list tame_sourceFile) fun _ =>
    .bind (.list tame_item) fun _ => .pure _

theorem run_eq_error {d : Decoder α} (h : d (.ofBytes bytes) = .error e c) :
    d.run bytes = .error e := by
  unfold Decoder.run
  rw [run_bind_error h]

theorem length_encodeRecord (r : Record) : (encodeRecord r).length =
    5 + (bytesOf (tokens r.metadata ++ (tokens r.files ++ tokens r.natives))).length := by
  rw [encodeRecord_eq, List.length_append, List.length_cons]
  simp only [magic, List.length_cons, List.length_nil]
  omega

theorem tornCause_of_le (h : 5 ≤ k) : tornCause k = .truncated k := by
  rw [tornCause, if_neg (by omega)]

theorem decodeRecord_torn {r : Record} (hr : RecordFits r) (hk : k < (encodeRecord r).length) :
    decodeRecord ((encodeRecord r).take k) = .error (tornCause k) := by
  by_cases h5 : k < 5
  · obtain ⟨c, hc⟩ := readHeader_torn _ h5
    rw [encodeRecord_eq]
    exact run_eq_error (run_bind_error hc)
  · obtain ⟨n, rfl⟩ := Nat.exists_eq_add_of_le (Nat.le_of_not_lt h5)
    rw [length_encodeRecord] at hk
    obtain ⟨c, hc⟩ := (reads_body hr).torn 5 tame_body (Nat.lt_of_add_lt_add_left hk)
    rw [tornCause_of_le (Nat.le_add_right 5 n), encodeRecord_eq]
    exact run_eq_error ((run_bind_ok (readHeader_take _ n)).trans hc)

theorem decodeMetadata_torn {r : Record} (hr : Fits r.metadata)
    (hk : k < 5 + (encode r.metadata).length) :
    decodeMetadata ((encodeRecord r).take k) = .error (tornCause k) := by
  rw [encodeRecord_eq]
  by_cases h5 : k < 5
  · obtain ⟨c, hc⟩ := readHeader_torn _ h5
    unfold decodeMetadata
    rw [run_bind_error hc]
  · obtain ⟨n, rfl⟩ := Nat.exists_eq_add_of_le (Nat.le_of_not_lt h5)
    have hn : n < (bytesOf (tokens r.metadata)).length := Nat.lt_of_add_lt_add_left hk
    obtain ⟨c, hc⟩ := (readable_metadata _ hr).torn 5 tame_metadata hn
    unfold decodeMetadata
    rw [run_bind_ok (readHeader_take _ n), bytesOf_append,
      List.take_append_of_le_length (Nat.le_of_lt hn), hc, tornCause_of_le (Nat.le_add_right 5 n)]

theorem decodeMetadata_take {r : Record} (hr : Fits r.metadata)
    (hk : 5 + (encode r.metadata).length ≤ k) :
    decodeMetadata ((encodeRecord r).take k) = .ok r.metadata := by
  obtain ⟨n, rfl⟩ := Nat.exists_eq_add_of_le (Nat.le_trans (Nat.le_add_right 5 _) hk)
  have hn : (bytesOf (tokens r.metadata)).length ≤ n := Nat.le_of_add_le_add_left hk
  rw [encodeRecord_eq]
  unfold decodeMetadata
  rw [run_bind_ok (readHeader_take _ n), bytesOf_append, List.take_append, List.take_of_length_le hn,
    readable_metadata _ hr]

/-- A cache file that has not been written to its end is refused, whatever the library and
wherever the file ends. Its card is read if all of it is there, and otherwise refused for the
same cause. -/
theorem torn_refused (r : Record) (hr : RecordFits r) (k : Nat) (hk : k < (encodeRecord r).length) :
    decodeRecord ((encodeRecord r).take k) =
        .error (if k < 4 then .badMagic else .truncated k) ∧
      decodeMetadata ((encodeRecord r).take k) =
        if 5 + (encode r.metadata).length ≤ k then .ok r.metadata
        else .error (if k < 4 then .badMagic else .truncated k) := by
  refine ⟨decodeRecord_torn hr hk, ?_⟩
  split
  · rename_i h
    exact decodeMetadata_take hr.1 h
  · rename_i h
    exact decodeMetadata_torn hr.1 (Nat.lt_of_not_le h)

/-- Two cuts, one in the card and one behind it. -/
theorem torn_refused_nested :
    RecordFits nestedRecord ∧ 40 < (encodeRecord nestedRecord).length ∧
      (decodeRecord ((encodeRecord nestedRecord).take 20) = .error (.truncated 20) ∧
        decodeMetadata ((encodeRecord nestedRecord).take 20) = .error (.truncated 20)) ∧
      decodeRecord ((encodeRecord nestedRecord).take 40) = .error (.truncated 40) ∧
        decodeMetadata ((encodeRecord nestedRecord).take 40) = .ok nestedRecord.metadata := by
  have hfits : RecordFits nestedRecord := by decide
  have hlen : 40 < (encodeRecord nestedRecord).length := by decide +kernel
  have hcard : (encode nestedRecord.metadata).length = 22 := by decide
  have h20 := torn_refused nestedRecord hfits 20 (by omega)
  have h40 := torn_refused nestedRecord hfits 40 hlen
  rw [hcard] at h20 h40
  exact ⟨hfits, hlen, h20, h40⟩

end DocSite.Wire
