import TicketGenius.Adapters.CacheKey

/-!
# Cache keys identify requests

The text `_cache_key` hashes joins method, path and parameters with colons.  A path may have colons
itself, and a value any character, but `urlencode` escapes the colons of names and values; so the
first colon of the text ends the method and the last one begins the parameters.  Two texts are equal
exactly for the same request (`keys_identify`), whatever the order is in which its parameters were
set.  As far as the digests of the texts do not collide, the same holds of the keys.
-/

namespace TicketGenius.CacheKeys

/-- The first 32 digits of the digests are different for different texts. -/
def NoCollision (lib : TextLibrary) (text text' : String) : Prop :=
  slice 32 (lib.sha256 text) = slice 32 (lib.sha256 text') → text = text'

/-- Two requests have one text exactly if they are the same, up to the order of the parameters and
the api key; and one key, unless the digests of their texts collide. -/
structure Identified (lib : TextLibrary) (method path : String) (params : Params)
    (method' path' : String) (params' : Params) : Prop where
  text_iff : keyText method path params = keyText method' path' params' ↔
    method = method' ∧ path = path' ∧ params.Same params'
  key_iff : NoCollision lib (keyText method path params) (keyText method' path' params') →
    (lib.cacheKey method path params = lib.cacheKey method' path' params' ↔
      method = method' ∧ path = path' ∧ params.Same params')

/-! ## The order of the parameters -/

/-- Dicts with the same items map every name to the same value. -/
lemma same_of_perm {params params' : Params} (h : params.items.Perm params'.items) :
    params.Same params' := by
  have hlookup : ∀ name, params.items.lookup name = params'.items.lookup name := by
    intro name
    refine Option.ext fun value => ?_
    rw [Params.lookup_eq_some_iff params.nodup, Params.lookup_eq_some_iff params'.nodup]
    exact h.mem_iff
  intro name _
  rw [Params.rendered, Params.rendered, hlookup name]

/-- The order in which parameters were inserted does not show in the text. -/
lemma keyText_of_perm {params params' : Params} (h : params.items.Perm params'.items)
    (method path : String) : keyText method path params = keyText method path params' := by
  rw [keyText, keyText, Params.normalized_eq_iff.mpr (same_of_perm h)]

/-! ## The key -/

/-- Keys are equal exactly if the texts are, unless their digests collide. -/
lemma cacheKey_eq_iff {lib : TextLibrary} {method path method' path' : String}
    {params params' : Params}
    (hfree : NoCollision lib (keyText method path params) (keyText method' path' params')) :
    lib.cacheKey method path params = lib.cacheKey method' path' params' ↔
      keyText method path params = keyText method' path' params' := by
  constructor
  · intro hkey
    apply hfree
    rw [TextLibrary.cacheKey, TextLibrary.cacheKey, ← String.toList_inj, String.toList_append,
      String.toList_append] at hkey
    exact String.toList_inj.mp (List.append_cancel_left hkey)
  · intro htext
    rw [TextLibrary.cacheKey, TextLibrary.cacheKey, htext]

/-- **Cache keys identify requests**, for methods without a colon and any paths and parameters. -/
theorem keys_identify (lib : TextLibrary) {method method' : String} (path path' : String)
    (params params' : Params) (hmethod : ':' ∉ method.toList) (hmethod' : ':' ∉ method'.toList) :
    Identified lib method path params method' path' params' ∧
      (params.items.Perm params'.items →
        keyText method path params = keyText method path params') := by
  have htext : keyText method path params = keyText method' path' params' ↔
      method = method' ∧ path = path' ∧ params.Same params' := keyText_eq_iff hmethod hmethod'
  refine ⟨⟨htext, fun hfree => ?_⟩, fun hperm => keyText_of_perm hperm method path⟩
  rw [cacheKey_eq_iff hfree]
  exact htext

/-! ### A page of events -/

def pageFirst : Params := ⟨[("page", .int 0), ("size", .int 20)], by decide⟩

def sizeFirst : Params := ⟨[("size", .int 20), ("page", .int 0)], by decide⟩

theorem page_identified :
    Identified .sample "GET" "/events.json" pageFirst "GET" "/events.json" sizeFirst ∧
      (pageFirst.items.Perm sizeFirst.items →
        keyText "GET" "/events.json" pageFirst = keyText "GET" "/events.json" sizeFirst) :=
  keys_identify .sample "/events.json" "/events.json" pageFirst sizeFirst (by decide)
    (by decide)

end TicketGenius.CacheKeys
