import Wireframe.Plan.Basic
import Wireframe.Prompt.Intent

/-!
# Plans for intents

* **Templates** (`Intent.plan`): the plan that a prompt of an intent starts with.
-/

namespace Wireframe

open Component (card input button)

def Intent.plan : Intent → Plan
  | login => ⟨"centered-card", [card "Login" [input "Email", input "Password", button "Submit"]]⟩
  | register =>
    ⟨"centered-card", [card "Create Account" [input "Name", input "Email", input "Password", button "Register"]]⟩
  | form => ⟨"single-column", [input "Name", input "Email", button "Submit"]⟩
  | dashboard => ⟨"dashboard", [card "Users", card "Revenue", card "Performance"]⟩
  | search => ⟨"single-column", [input "Search...", button "Find"]⟩
  | profile => ⟨"single-column", [input "Full Name", input "Email", button "Update Profile"]⟩
  | settings => ⟨"single-column", [input "New Password", input "Confirm Password", button "Save Settings"]⟩
  | list => ⟨"dashboard", [card "User 1", card "User 2", card "User 3"]⟩
  | landing => ⟨"centered-card", [card "Welcome" [button "Get Started"]]⟩
  | modal => ⟨"centered-card", [card "Confirmation" [button "Confirm", button "Cancel"]]⟩
  | contact => ⟨"single-column", [input "Name", input "Email", input "Message", button "Send Message"]⟩
  | default => ⟨"centered-card", [card "AI Generated UI" [input "Text", button "Submit"]]⟩

end Wireframe
