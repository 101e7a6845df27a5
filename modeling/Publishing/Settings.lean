import Publishing.Policy
import Publishing.RenderContext

/-!
# Settings

The settings of a site: the policy of callers that choose none, the culture and
segment of a request, and the ids of the system nodes.
-/

namespace Publishing

/-- The ids of the system nodes. -/
structure ReservedIds where
  root : NodeId := NodeId.root
  contentBin : NodeId := NodeId.contentBin
  mediaBin : NodeId := NodeId.mediaBin
deriving DecidableEq

/-- The settings of a site. -/
structure Settings where
  /-- The policy of callers that choose none. -/
  policy : Policy := Policy.empty
  culture : Option String := none
  segment : Option String := none
  reserved : ReservedIds := {}
deriving DecidableEq

/-- The context of a request with the culture and segment of the settings. -/
def Settings.renderContext (s : Settings) : RenderContext :=
  { culture := s.culture, segment := s.segment }

end Publishing
