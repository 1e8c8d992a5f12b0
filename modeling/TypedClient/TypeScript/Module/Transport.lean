import TypedClient.Config.Basic
import TypedClient.Json.Printer

/-!
# The module of the transport

The transport sends requests with `fetch`. Its defaults come from the configuration: each is written
as JSON, which TypeScript reads as an expression of the same value.
-/

namespace TypedClient.TypeScript.Module

/-- The lines of the module of the transport. -/
def transport (settings : Config.Transport) (stamp : String) : List String :=
  let baseUrl := (Json.string (settings.baseUrl?.getD "")).compact
  let timeout := toString settings.timeoutMs
  let headers :=
    (Json.object (settings.headers.map fun (name, value) => (name, .string value))).compact
  let credentials := (Json.bool settings.withCredentials).compact
  [ "// Generated by acg at " ++ stamp ++ ". Do not edit.",
    "import \x7b type ApiResult, fail, networkError, normalizeError, ok \x7d from \"./errors\";",
    "import \x7b type Method, multipartEndpoints \x7d from \"./operations\";",
    "",
    "export type PathParams = Record<string, string | number>;",
    "",
    "export interface TransportConfig \x7b",
    "  query?: object;",
    "  headers?: Record<string, string>;",
    "  signal?: AbortSignal;",
    "\x7d",
    "",
    "export interface InstanceOptions \x7b",
    "  baseUrl: string;",
    "  timeoutMs: number;",
    "  headers: Record<string, string>;",
    "  withCredentials: boolean;",
    "\x7d",
    "",
    "export const defaultInstanceOptions: InstanceOptions = \x7b",
    "  baseUrl: " ++ baseUrl ++ ",",
    "  timeoutMs: " ++ timeout ++ ",",
    "  headers: " ++ headers ++ ",",
    "  withCredentials: " ++ credentials ++ ",",
    "\x7d;",
    "",
    "/** Trailing arguments: `(config)` or `(pathParams, config)`. */",
    "type Tail =",
    "  | [config?: TransportConfig]",
    "  | [pathParams: PathParams | undefined, config: TransportConfig | undefined];",
    "",
    "export interface Transport \x7b",
    "  get<T>(path: string, ...rest: Tail): Promise<ApiResult<T>>;",
    "  delete<T>(path: string, ...rest: Tail): Promise<ApiResult<T>>;",
    "  post<T>(path: string, data: unknown, ...rest: Tail): Promise<ApiResult<T>>;",
    "  put<T>(path: string, data: unknown, ...rest: Tail): Promise<ApiResult<T>>;",
    "  patch<T>(path: string, data: unknown, ...rest: Tail): Promise<ApiResult<T>>;",
    "\x7d",
    "",
    "function splitTail(rest: Tail): [PathParams | undefined, TransportConfig | undefined] \x7b",
    "  return rest.length === 2 ? [rest[0], rest[1]] : [undefined, rest[0]];",
    "\x7d",
    "",
    "function toIdentifier(name: string): string \x7b",
    "  return name.replace(/[-_]([a-z])/g, (_, letter: string) => letter.toUpperCase());",
    "\x7d",
    "",
    "function resolvePath(template: string, pathParams?: PathParams): string \x7b",
    "  return template.replace(/\\\x7b([^\x7d]+)\\\x7d/g, (placeholder, name: string) => \x7b",
    "    const value = pathParams?.[toIdentifier(name)] ?? pathParams?.[name];",
    "    return value === undefined ? placeholder : encodeURIComponent(String(value));",
    "  \x7d);",
    "\x7d",
    "",
    "function buildUrl(baseUrl: string, path: string, query?: object): string \x7b",
    "  const url = baseUrl.replace(/\\/+$/, \"\") + path;",
    "  if (!query) \x7b",
    "    return url;",
    "  \x7d",
    "  const search = new URLSearchParams();",
    "  for (const [key, value] of Object.entries(query)) \x7b",
    "    if (value === undefined || value === null) \x7b",
    "      continue;",
    "    \x7d",
    "    for (const item of Array.isArray(value) ? value : [value]) \x7b",
    "      search.append(key, String(item));",
    "    \x7d",
    "  \x7d",
    "  const qs = search.toString();",
    "  return qs ? `$\x7burl\x7d?$\x7bqs\x7d` : url;",
    "\x7d",
    "",
    "function toFormData(data: unknown): FormData \x7b",
    "  if (data instanceof FormData) \x7b",
    "    return data;",
    "  \x7d",
    "  const form = new FormData();",
    "  for (const [key, value] of Object.entries(data as Record<string, unknown>)) \x7b",
    "    if (value === undefined || value === null) \x7b",
    "      continue;",
    "    \x7d",
    "    for (const item of Array.isArray(value) ? value : [value]) \x7b",
    "      if (item instanceof Blob) \x7b",
    "        form.append(key, item);",
    "      \x7d else \x7b",
    "        form.append(key, typeof item === \"object\" ? JSON.stringify(item) : String(item));",
    "      \x7d",
    "    \x7d",
    "  \x7d",
    "  return form;",
    "\x7d",
    "",
    "function encodeBody(",
    "  method: Method,",
    "  template: string,",
    "  data: unknown,",
    "): \x7b body?: BodyInit; contentType?: string \x7d \x7b",
    "  if (data === undefined) \x7b",
    "    return \x7b\x7d;",
    "  \x7d",
    "  if (data instanceof FormData || multipartEndpoints[`$\x7bmethod\x7d " ++
      "$\x7btemplate\x7d`]) \x7b",
    "    return \x7b body: toFormData(data) \x7d;",
    "  \x7d",
    "  return \x7b body: JSON.stringify(data), contentType: \"application/json\" \x7d;",
    "\x7d",
    "",
    "async function readPayload(response: Response): Promise<unknown> \x7b",
    "  const text = await response.text();",
    "  if (!text) \x7b",
    "    return undefined;",
    "  \x7d",
    "  if ((response.headers.get(\"content-type\") ?? \"\").includes(\"json\")) \x7b",
    "    try \x7b",
    "      return JSON.parse(text);",
    "    \x7d catch \x7b",
    "      return text;",
    "    \x7d",
    "  \x7d",
    "  return text;",
    "\x7d",
    "",
    "export function createInstance(options: Partial<InstanceOptions> = \x7b\x7d): Transport \x7b",
    "  const settings: InstanceOptions = \x7b",
    "    ...defaultInstanceOptions,",
    "    ...options,",
    "    headers: \x7b ...defaultInstanceOptions.headers, ...options.headers \x7d,",
    "  \x7d;",
    "",
    "  async function request<T>(",
    "    method: Method,",
    "    template: string,",
    "    data: unknown,",
    "    rest: Tail,",
    "  ): Promise<ApiResult<T>> \x7b",
    "    const [pathParams, config] = splitTail(rest);",
    "    const url = buildUrl(settings.baseUrl, resolvePath(template, pathParams), config?.query);",
    "    const \x7b body, contentType \x7d = encodeBody(method, template, data);",
    "    const headers: Record<string, string> = \x7b",
    "      Accept: \"application/json\",",
    "      ...settings.headers,",
    "      ...config?.headers,",
    "    \x7d;",
    "    if (contentType) \x7b",
    "      headers[\"Content-Type\"] = contentType;",
    "    \x7d",
    "",
    "    const controller = new AbortController();",
    "    const timer =",
    "      settings.timeoutMs > 0 ? setTimeout(() => controller.abort(), settings.timeoutMs) " ++
      ": undefined;",
    "    config?.signal?.addEventListener(\"abort\", () => controller.abort(), \x7b once: " ++
      "true \x7d);",
    "",
    "    try \x7b",
    "      const response = await fetch(url, \x7b",
    "        method: method.toUpperCase(),",
    "        headers,",
    "        body,",
    "        signal: controller.signal,",
    "        credentials: settings.withCredentials ? \"include\" : \"same-origin\",",
    "      \x7d);",
    "      const payload = await readPayload(response);",
    "      return response.ok ? ok(payload as T) : fail(normalizeError(response.status, payload));",
    "    \x7d catch (cause) \x7b",
    "      return fail(networkError(cause));",
    "    \x7d finally \x7b",
    "      if (timer !== undefined) \x7b",
    "        clearTimeout(timer);",
    "      \x7d",
    "    \x7d",
    "  \x7d",
    "",
    "  return \x7b",
    "    get: <T>(path: string, ...rest: Tail) => request<T>(\"get\", path, undefined, rest),",
    "    delete: <T>(path: string, ...rest: Tail) => request<T>(\"delete\", path, undefined, " ++
      "rest),",
    "    post: <T>(path: string, data: unknown, ...rest: Tail) => request<T>(\"post\", path, " ++
      "data, rest),",
    "    put: <T>(path: string, data: unknown, ...rest: Tail) => request<T>(\"put\", path, " ++
      "data, rest),",
    "    patch: <T>(path: string, data: unknown, ...rest: Tail) => request<T>(\"patch\", " ++
      "path, data, rest),",
    "  \x7d;",
    "\x7d"]

end TypedClient.TypeScript.Module
