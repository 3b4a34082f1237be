import DumbBrowser.PrivacyGuard.RuleSelection

/-!
# The exceptions of a rule

* `exceptions_decide_iff` : when the exceptions are decided as they would be on the whole URL.
-/

namespace DumbBrowser

section Exceptions
variable {re2 : RE2Library} {rule : URLPurifyRule} {exceptions : List String} {url : GURL}

theorem urlLen_eq {text : List Char} (hne : text ≠ []) (hlength : text.length < UInt64.size) :
    urlLen text = text.length - 1 := by
  have hpos := List.length_pos_of_ne_nil hne
  unfold urlLen
  rw [show text.length + UInt64.size - 1 = text.length - 1 +
    UInt64.size by omega, Nat.add_mod_right]
  apply Nat.mod_eq_of_lt
  omega

/-- The window of the search is the text without its last character; it is no window of the empty
text. -/
theorem RE2.Windowed.matchUnanchored_urlLen {re : RE2} (hwindowed : re.Windowed) {text : List Char}
    (hlength : text.length < UInt64.size) :
    re.matchUnanchored text 0 (urlLen text) = true ↔
    text ≠ [] ∧ re.search text.dropLast = true := by
  rw [hwindowed]
  by_cases hne : text = []
  · rw [hne]
    simp [urlLen]
  · rw [urlLen_eq hne hlength, ← List.dropLast_eq_take]
    simp [hne]

theorem exceptsWindow_iff (hexceptions : rule.urlExceptions = some exceptions)
    (hwindowed : (re2 (joinString exceptions '|') false).Windowed)
    (hlength : url.spec.toList.length < UInt64.size) :
    rule.exceptsWindow re2 url = true ↔ url.spec.toList ≠ [] ∧
      (re2 (joinString exceptions '|') false).search url.spec.toList.dropLast = true := by
  rw [URLPurifyRule.exceptsWindow, hexceptions, Option.any_some,
    hwindowed.matchUnanchored_urlLen hlength]

/-- Once the pattern has been passed, the rule is skipped for its exceptions alone. -/
theorem tryApplyMatcher_skips_iff (hreached : rule.matchesWindow re2 url = false) {q : List Char} :
    tryApplyMatcher (QueryMatcher.ofRule re2 rule) false url.spec.toList q = (-1, q) ↔
      rule.exceptsWindow re2 url = true := by
  rw [tryApplyMatcher_eq, hreached, if_neg Bool.false_ne_true]
  split
  · next hexcepts => simp [hexcepts]
  · next hexcepts =>
    have hcount := le_applyQueryMatchers_count (QueryMatcher.ofRule re2 rule).queryMatchers 0 q
    refine iff_of_false (fun heq => ?_) hexcepts
    rw [heq] at hcount
    omega

/-- **Exceptions and the whole URL**: a rule that is reached is skipped as its exceptions say
exactly when their joined expression says the same of the URL without its last character; where that
is found when one of them is, exactly when the exceptions themselves do. -/
theorem exceptions_decide_iff (re2 : RE2Library)
    (hexceptions : rule.urlExceptions = some exceptions)
    (hwindowed : (re2 (joinString exceptions '|') false).Windowed)
    (hreached : rule.matchesWindow re2 url = false) (hlength : url.spec.toList.length < UInt64.size)
    (q : List Char) :
    let spec := url.spec.toList
    let decided := tryApplyMatcher (QueryMatcher.ofRule re2 rule) false spec q = (-1, q) ↔
      ∃ e ∈ exceptions, (re2 e.toList false).search spec = true
    (decided ↔ ((∃ e ∈ exceptions, (re2 e.toList false).search spec = true) ↔
        spec ≠ [] ∧ (re2 (joinString exceptions '|') false).search spec.dropLast = true)) ∧
      (re2.SearchesEach exceptions →
        (decided ↔ ((∃ e ∈ exceptions, (re2 e.toList false).search spec = true) ↔
          spec ≠ [] ∧ ∃ e ∈ exceptions, (re2 e.toList false).search spec.dropLast = true))) := by
  intro spec decided
  have hjoined : decided ↔ ((∃ e ∈ exceptions, (re2 e.toList false).search spec = true) ↔
      spec ≠ [] ∧ (re2 (joinString exceptions '|') false).search spec.dropLast = true) := by
    rw [← exceptsWindow_iff hexceptions hwindowed hlength, ← tryApplyMatcher_skips_iff hreached]
    exact iff_comm
  refine ⟨hjoined, fun hsearches => ?_⟩
  rw [← hsearches spec.dropLast]
  exact hjoined

end Exceptions

/-- An exception of the first default rule, on a URL in which its match needs the last character:
the query is filtered. -/
theorem exception_at_last_character :
    let rule : URLPurifyRule := ⟨"Google", "google\\.", ["ved"], some [".*(.googlevideo.com).*"]⟩
    let url : GURL :=
      { scheme := "https", host := "a.com", path := "/", query := some "ved=1&u=.googlevideo.com" }
    (getDefaultPerSiteRules.head?.bind (·.urlExceptions)).bind List.head? =
      some ".*(.googlevideo.com).*" ∧
      rule.matchesWindow Regex.library url = false ∧ rule.exceptsURL Regex.library url = true ∧
      tryApplyMatcher (QueryMatcher.ofRule Regex.library rule) false url.spec.toList
          "ved=1&u=.googlevideo.com".toList =
        (1, "u=.googlevideo.com".toList) := by
  decide +kernel

/-- An exception that matches before the last character. -/
theorem exceptions_decide_inside :
    let rule : URLPurifyRule := ⟨"Shop", "shop", ["ref"], some ["mail", "news"]⟩
    let url : GURL := { scheme := "https", host := "mail.example", path := "/", query := some "ref=1" }
    tryApplyMatcher (QueryMatcher.ofRule Regex.library rule) false url.spec.toList "ref=1".toList =
        (-1, "ref=1".toList) ↔
      ∃ e ∈ ["mail", "news"], (Regex.library e.toList false).search url.spec.toList = true := by
  intro rule url
  have h := @exceptions_decide_iff rule ["mail", "news"] url Regex.library rfl Regex.windowed_object
    (by decide +kernel) (by decide +kernel) "ref=1".toList
  have hsearches : Regex.library.SearchesEach ["mail", "news"] :=
    Regex.searchesEach_library (by decide) (by decide +kernel)
  refine (h.2 hsearches).mpr ?_
  decide +kernel

end DumbBrowser
