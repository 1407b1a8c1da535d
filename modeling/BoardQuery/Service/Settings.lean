import BoardQuery.Query.Page
import BoardQuery.Query.Parameters

/-!
# Settings of the service
-/

namespace BoardQuery

/-- The limits and choices under which requests are answered. -/
structure Settings where
  /-- Where tasks without a value stand in orders. -/
  missing : MissingPolicy
  pages : PageLimits
  /-- The most characters of a filter stated as text. -/
  filtersText : Int
  /-- More text conditions than these are warned about. -/
  textConditions : Int
  /-- The most tasks of a bulk operation. -/
  bulkTasks : Int

def Settings.usual : Settings := ⟨.last, ⟨15, 100⟩, 10000, 3, 500⟩

def Settings.limits (c : Settings) : TaskQuery.Limits := ⟨c.filtersText, c.pages.most⟩

end BoardQuery
