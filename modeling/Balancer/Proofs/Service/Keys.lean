import Mathlib
import Balancer.ServiceId

/-!
# Keys of services

The key of a service is its namespace and its name with a slash between them. Names may contain
slashes, so the joined text does not show by itself where the namespace ends. Reading takes the
first slash for the separator. It succeeds exactly if there is something on both sides of it, and
the namespace that is read is free of slashes.

Hence writing and reading undo each other for the identifiers whose namespace is free of slashes and
whose parts are not empty, and for no others: the key of another identifier is refused or read as a
different one.
-/

namespace Balancer.ServiceId

/-- The identifiers that are read from keys: both parts are not empty, and the namespace is free of
slashes. -/
structure Readable (id : ServiceId) : Prop where
  ns_ne : id.ns ≠ ""
  slash_not_mem : '/' ∉ id.ns.toList
  name_ne : id.name ≠ ""

/-- The place of the first slash in a text, which is the length if there is none. -/
def firstSlash (key : String) : Nat :=
  key.toList.idxOf '/'

/-- The ways in which reading a key ends, told apart by the first slash. -/
inductive Reads (key : String) : Except KeyError ServiceId → Prop where
  | noSlash (hslash : '/' ∉ key.toList) : Reads key (.error (.noSeparator key))
  | noNs (hslash : '/' ∈ key.toList) (hfirst : firstSlash key = 0) :
      Reads key (.error (.emptyPart .ns key))
  | noName (hslash : '/' ∈ key.toList) (hfirst : firstSlash key ≠ 0)
      (hlast : firstSlash key + 1 = key.length) : Reads key (.error (.emptyPart .name key))
  | both {id : ServiceId} (hslash : '/' ∈ key.toList) (hfirst : firstSlash key ≠ 0)
      (hlast : firstSlash key + 1 ≠ key.length) (hid : id.Readable) (hkey : id.key = key) :
      Reads key (.ok id)

/-- The characters of a key. -/
theorem toList_key (id : ServiceId) : id.key.toList = id.ns.toList ++ '/' :: id.name.toList := by
  simp [key]

/-- The first slash stands behind the part that is free of slashes. -/
theorem firstSlash_eq {key ns name : String} (hslash : '/' ∉ ns.toList)
    (hkey : key.toList = ns.toList ++ '/' :: name.toList) : firstSlash key = ns.length := by
  rw [firstSlash, hkey, List.idxOf_append_of_notMem hslash, List.idxOf_cons_self, Nat.add_zero,
    String.length_toList]

/-- Reading a key ends in one of these ways. -/
theorem reads (key : String) : Reads key (ofKey key) := by
  unfold ofKey
  split
  · next hcut => exact .noSlash ((Text.cut_eq_none_iff '/' key).mp hcut)
  · next ns name hcut =>
    obtain ⟨hkey, hslash⟩ := (Text.cut_eq_some_iff '/' key ns name).mp hcut
    have hmem : '/' ∈ key.toList := by simp [hkey]
    have hfirst : firstSlash key = ns.length := firstSlash_eq hslash hkey
    have hlength : key.length = ns.length + (name.length + 1) := by
      rw [← String.length_toList, hkey, List.length_append, List.length_cons,
        String.length_toList, String.length_toList]
    split
    · next hns => exact .noNs hmem (by simp [hfirst, hns])
    · next hns =>
      have hplace : firstSlash key ≠ 0 := by simpa [hfirst] using hns
      split
      · next hname => exact .noName hmem hplace (by simp [hfirst, hlength, hname])
      · next hname =>
        refine .both hmem hplace ?_ ⟨hns, hslash, hname⟩ ?_
        · simpa [hfirst, hlength] using hname
        · rw [← String.toList_inj, toList_key, hkey]

/-- The key of a readable identifier is read as this identifier. -/
theorem Readable.ofKey_key {id : ServiceId} (h : id.Readable) : ofKey id.key = .ok id := by
  have hcut : Text.cut '/' id.key = some (id.ns, id.name) :=
    (Text.cut_eq_some_iff '/' id.key id.ns id.name).mpr ⟨id.toList_key, h.slash_not_mem⟩
  simp only [ofKey, hcut, if_neg h.ns_ne, if_neg h.name_ne]

/-- The identifier that is read from a text is the readable one with this key. -/
theorem ofKey_eq_ok_iff {key : String} {id : ServiceId} :
    ofKey key = .ok id ↔ id.Readable ∧ id.key = key := by
  constructor
  · intro h
    have hreads := reads key
    rw [h] at hreads
    cases hreads with
    | both _ _ _ hid hkey => exact ⟨hid, hkey⟩
  · rintro ⟨hid, rfl⟩
    exact hid.ofKey_key

/-- A text is read as an identifier exactly if it contains a slash, and the first one is neither the
first nor the last character. The identifier is then the readable one with this key. Otherwise the
error is decided by the first slash: there is none, or it is the first character, whatever follows,
or it is the last one. The identifiers that are read from their own keys are the readable ones, and
no two identifiers that are read from keys have the same key. -/
theorem keys_exact :
    (∀ key,
      ((∃ id, ofKey key = .ok id) ↔
        '/' ∈ key.toList ∧ firstSlash key ≠ 0 ∧ firstSlash key + 1 ≠ key.length) ∧
      (∀ id, ofKey key = .ok id ↔ id.Readable ∧ id.key = key) ∧
      (ofKey key = .error (.noSeparator key) ↔ '/' ∉ key.toList) ∧
      (ofKey key = .error (.emptyPart .ns key) ↔ '/' ∈ key.toList ∧ firstSlash key = 0) ∧
      (ofKey key = .error (.emptyPart .name key) ↔
        '/' ∈ key.toList ∧ firstSlash key ≠ 0 ∧ firstSlash key + 1 = key.length)) ∧
    (∀ id : ServiceId, ofKey id.key = .ok id ↔ id.Readable) ∧
    Set.InjOn key {id | ∃ key, ofKey key = .ok id} := by
  refine ⟨fun key => ?_, fun id => ?_, ?_⟩
  · rw [and_left_comm]
    refine ⟨fun id => ofKey_eq_ok_iff, ?_⟩
    have hreads := reads key
    generalize ofKey key = result at hreads ⊢
    cases hreads with
    | noSlash hslash => simp [hslash]
    | noNs hslash hfirst => simp [hslash, hfirst]
    | noName hslash hfirst hlast => simp [hslash, hfirst, hlast]
    | both hslash hfirst hlast => simp [hslash, hfirst, hlast]
  · rw [ofKey_eq_ok_iff, and_iff_left rfl]
  · rintro first ⟨key, hfirst⟩ second ⟨key', hsecond⟩ hsame
    have hread := (ofKey_eq_ok_iff.mp hfirst).1.ofKey_key
    rw [hsame, (ofKey_eq_ok_iff.mp hsecond).1.ofKey_key] at hread
    exact (Except.ok.inj hread).symm

/-- A namespace with a slash in it is not read back. -/
example : ofKey (key { ns := "a/b", name := "c" }) = .ok { ns := "a", name := "b/c" } := by decide

end Balancer.ServiceId
