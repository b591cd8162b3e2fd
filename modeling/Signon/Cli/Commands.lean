import Signon.Cli.Param

namespace Signon.Cli

/-- The options every subcommand takes, in display order. -/
def globalParams : List Param :=
  [{ id := "api-base", long := some "api-base", help := "API root URL, e.g. http://localhost:8080/api/v1",
     env := some "AUTH_API_BASE", order := 0, global := true },
   { id := "session-mode", long := some "session-mode", help := "How the server keeps the session",
     env := some "AUTH_SESSION_MODE", choices := ["bearer", "cookie"], order := 1, global := true },
   { id := "cookie-name", long := some "cookie-name", help := "Session cookie name in cookie mode",
     env := some "AUTH_COOKIE_NAME", order := 2, global := true },
   { id := "storage", long := some "storage", help := "Credential file (default: ~/.authctl/session.json)",
     env := some "AUTH_STORAGE_PATH", order := 3, global := true },
   { id := "verbosity", long := some "verbose", short := some 'v', action := .count,
     help := "Increase log verbosity (-v debug, -vv trace)", order := 4, global := true }]

def emailParam (order : Nat) : Param :=
  { id := "email", long := some "email", short := some 'e', help := "Account email address",
    env := some "AUTHCTL_EMAIL", required := true, order }

def passwordParam (help : String) (order : Nat) : Param :=
  { id := "password", long := some "password", help, longHelp := some (help ++ ". Prompted on stdin when omitted"),
    env := some "AUTHCTL_PASSWORD", hideEnvValue := true, order }

def confirmParam (order : Nat) : Param :=
  { id := "confirm-password", long := some "confirm-password",
    help := "Repeat the new password (defaults to --password when that is given)", hideEnvValue := true, order }

/-- The program. -/
def authctl : Program :=
  let sub (name about : String) (own : List Param) := subcommand "authctl" name about own globalParams
  { root :=
      { name := "authctl", path := "authctl", about := "Client for the account authentication API",
        params := globalParams ++ [helpParam false, versionParam], needsSubcommand := true,
        helpWhenBare := true },
    version := "0.1.0",
    commands := [
      sub "login" "Sign in and store the session" [emailParam 0, passwordParam "Account password" 1],
      sub "register" "Create an account"
        [emailParam 0,
         { id := "username", long := some "username", short := some 'u', help := "Public handle, 3-50 characters",
           required := true, order := 1 },
         passwordParam "New password" 2, confirmParam 3],
      sub "verify-email" "Confirm the email address with the mailed code"
        [emailParam 0,
         { id := "code", long := some "code", short := some 'c', help := "6-digit verification code",
           required := true, order := 1 }],
      sub "resend-verification" "Mail a new verification code" [emailParam 0],
      sub "logout" "Sign out and forget the stored session" [],
      sub "refresh" "Exchange the refresh token for a new access token" [],
      sub "whoami" "Fetch the signed-in user's profile" [],
      sub "status" "Show the stored session without contacting the server" [],
      sub "forgot-password" "Request a password reset email" [emailParam 0],
      sub "reset-password" "Set a new password with the emailed reset token"
        [emailParam 0,
         { id := "token", long := some "token", short := some 't', help := "Reset token from the email",
           required := true, order := 1 },
         passwordParam "New password" 2, confirmParam 3],
      sub "change-password" "Change the signed-in user's password"
        [{ id := "current-password", long := some "current-password",
           help := "Current password. Prompted on stdin when omitted", order := 0 },
         passwordParam "New password" 1, confirmParam 2],
      sub "guard" "Show where the route guard would send the stored session"
        [{ id := "path", positional := true, help := "Route path, e.g. /admin/users", required := true }],
      helpCommand "authctl"] }

end Signon.Cli
