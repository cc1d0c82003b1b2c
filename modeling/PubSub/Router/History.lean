import PubSub.Router

/-!
# Histories of a router

What a list of frames says of who listens to what.

## Main definitions

- `Router.after` — the router that has seen a list of frames
- `Router.Live` — an id that announced its interest in a pattern and did not withdraw it
- `Router.announcer?` — the id that was the last to announce interest in a pattern
-/

namespace PubSub

/-- The id whose interest in a pattern a frame announces, if it does. -/
def Frame.announces? (pattern : String) : Frame → Option Sid
  | .subscribe sid subject _ => if subject = pattern then some sid else none
  | _ => none

namespace Router

/-- The router that has seen a list of frames. -/
def after (frames : List Frame) : Router := frames.foldl (fun r frame => (r.route frame).2) {}

/-- The interest of `sid` in a pattern is announced, and not withdrawn after that. -/
def Live (frames : List Frame) (sid : Sid) (pattern : String) : Prop :=
  ∃ group before later, frames = before ++ .subscribe sid pattern group :: later ∧
    .unsubscribe sid none ∉ later

/-- The id that was the last to announce interest in a pattern. -/
def announcer? (frames : List Frame) (pattern : String) : Option Sid :=
  (frames.filterMap (Frame.announces? pattern)).getLast?

end Router

end PubSub
