/-!
# The module of errors

What a call resolves to, data or an error, and how an answer of any shape becomes an error.
-/

namespace TypedClient.TypeScript.Module

/-- The lines of the module of errors. -/
def errors (stamp : String) : List String :=
  [ "// Generated by acg at " ++ stamp ++ ". Do not edit.",
    "",
    "/** A failed call, normalized from whatever the backend sent. */",
    "export interface ApiError \x7b",
    "  /** HTTP status, or 0 when no response arrived. */",
    "  status: number;",
    "  message: string;",
    "  details?: unknown;",
    "\x7d",
    "",
    "/** Every call resolves to exactly one of `data` or `error`; nothing throws. */",
    "export type ApiResult<T> = \x7b data: T; error: null \x7d | \x7b data: null; error: " ++
      "ApiError \x7d;",
    "",
    "export function ok<T>(data: T): ApiResult<T> \x7b",
    "  return \x7b data, error: null \x7d;",
    "\x7d",
    "",
    "export function fail<T = never>(error: ApiError): ApiResult<T> \x7b",
    "  return \x7b data: null, error \x7d;",
    "\x7d",
    "",
    "const MESSAGE_KEYS = [\"message\", \"error\", \"errors\", \"detail\", \"title\"] as const;",
    "",
    "function isRecord(value: unknown): value is Record<string, unknown> \x7b",
    "  return typeof value === \"object\" && value !== null && !Array.isArray(value);",
    "\x7d",
    "",
    "function joinMessages(parts: Array<string | undefined>): string | undefined \x7b",
    "  const found = parts.filter((part): part is string => Boolean(part));",
    "  return found.length > 0 ? found.join(\"; \") : undefined;",
    "\x7d",
    "",
    "function fieldMessages(errors: Record<string, unknown>): string | undefined \x7b",
    "  return joinMessages(",
    "    Object.entries(errors).map(([field, value]) => \x7b",
    "      const message = extractMessage(value);",
    "      return message ? `$\x7bfield\x7d: $\x7bmessage\x7d` : undefined;",
    "    \x7d),",
    "  );",
    "\x7d",
    "",
    "function extractMessage(value: unknown): string | undefined \x7b",
    "  if (typeof value === \"string\") \x7b",
    "    return value.trim() || undefined;",
    "  \x7d",
    "  if (Array.isArray(value)) \x7b",
    "    return joinMessages(value.map(extractMessage));",
    "  \x7d",
    "  if (!isRecord(value)) \x7b",
    "    return undefined;",
    "  \x7d",
    "  for (const key of MESSAGE_KEYS) \x7b",
    "    const candidate = value[key];",
    "    const message =",
    "      key === \"errors\" && isRecord(candidate) ? fieldMessages(candidate) : " ++
      "extractMessage(candidate);",
    "    if (message) \x7b",
    "      return message;",
    "    \x7d",
    "  \x7d",
    "  // Validation error items, e.g. `\x7b loc: [...], msg: \"field required\" \x7d`.",
    "  return typeof value.msg === \"string\" ? value.msg : undefined;",
    "\x7d",
    "",
    "/** Normalize an error payload (`message`, `error`, `errors`, `detail` or `title`). */",
    "export function normalizeError(status: number, payload: unknown): ApiError \x7b",
    "  return \x7b",
    "    status,",
    "    message: extractMessage(payload) ?? `Request failed with status $\x7bstatus\x7d`,",
    "    details: payload,",
    "  \x7d;",
    "\x7d",
    "",
    "/** A request that never produced a response. */",
    "export function networkError(cause: unknown): ApiError \x7b",
    "  const aborted = cause instanceof Error && cause.name === \"AbortError\";",
    "  return \x7b",
    "    status: 0,",
    "    message: aborted",
    "      ? \"Request aborted or timed out\"",
    "      : cause instanceof Error",
    "        ? cause.message",
    "        : String(cause),",
    "    details: cause,",
    "  \x7d;",
    "\x7d"]

end TypedClient.TypeScript.Module
